/-
# What the service works with

A server handles a message of a client or of another node on the loop it came in
by. What it does besides talking to the registry is: read and write the table of
local connections, the delivery queues of its loops and the channels to other
nodes, ask the database, and send to clients.

Messages are numbered as they come in, so that two messages of the same text are
told apart; the numbers are not part of what is sent.
-/

import ClusterChat.Channel.ShardChannel
import ClusterChat.Delivery.Dispatcher
import ClusterChat.Registry.NodeRegistry
import ClusterChat.Wire.ClusterStream

namespace ClusterChat

/-! ### Messages -/

/-- The message of a client: its number and the text that recipients get. -/
structure Message where
  number : ℕ
  text : Bytes
  deriving DecidableEq

/-- A message for one recipient. -/
structure Copy where
  message : Message
  recipient : UserId
  deriving DecidableEq

/-- A message on its way to another node, with the request that carries it. -/
structure Frame where
  number : ℕ
  request : ClusterRequest

/-- What a frame holds for its recipients. -/
def Frame.copies (frame : Frame) : List Copy :=
  match frame.request with
  | .oneChat toUser payload => [⟨⟨frame.number, payload⟩, toUser⟩]
  | .groupChat toUsers payload => toUsers.map fun toUser => ⟨⟨frame.number, payload⟩, toUser⟩

/-- A connection of a client, and the loop it belongs to. -/
structure Connection where
  id : ℕ
  loop : ℕ
  deriving DecidableEq

/-- `LocalDeliveryTask`. -/
structure LocalDeliveryTask where
  conn : Connection
  copy : Copy

/-! ### The database -/

/-- `User`. -/
structure User where
  id : UserId
  name : CString
  password : CString
  state : CString
  deriving DecidableEq

def online : CString := cString ['o', 'n', 'l', 'i', 'n', 'e']

def offline : CString := cString ['o', 'f', 'f', 'l', 'i', 'n', 'e']

/-- `User()`. -/
def User.default : User := ⟨-1, [], [], offline⟩

/-- `GroupUser`. -/
structure GroupUser extends User where
  role : CString
  deriving DecidableEq

/-- `Group`. -/
structure Group where
  id : Int32
  name : CString
  desc : CString
  users : List GroupUser
  deriving DecidableEq

/-- The operations of the models that the handlers below use. -/
inductive DatabaseCall : Type → Type
  | queryUser (id : UserId) : DatabaseCall User
  | updateState (id : UserId) (state : CString) : DatabaseCall Unit
  | insertOffline (copy : Copy) : DatabaseCall Unit
  | queryOffline (userId : UserId) : DatabaseCall (List Bytes)
  | removeOffline (userId : UserId) : DatabaseCall Unit
  | queryFriends (userId : UserId) : DatabaseCall (List User)
  | queryGroups (userId : UserId) : DatabaseCall (List Group)
  | queryGroupUsers (userId : UserId) (groupId : Int32) : DatabaseCall (List UserId)

/-! ### Clients -/

/-- The answer to a login. -/
inductive LoginResponse
  | invalid
  | inUse
  | registerFailed
  | accepted (user : User) (offlineMsg : List Bytes) (friends : List User) (groups : List Group)
  deriving DecidableEq

def LoginResponse.errno : LoginResponse → ℕ
  | accepted _ _ _ _ => 0
  | invalid => 1
  | inUse => 2
  | registerFailed => 3

/-- What a server sends to a client. -/
inductive Outgoing
  | loginAck (response : LoginResponse)
  | chat (copy : Copy)
  deriving DecidableEq

def Outgoing.copies : Outgoing → List Copy
  | loginAck _ => []
  | chat copy => [copy]

/-! ### The service's own data -/

/-- What the service does on its own data: the buckets of the connection table,
each under its mutex, the map of delivery queues, and the connections of clients.
The order in which a hash map is gone through is not known. -/
inductive ServiceCall : Type → Type
  | addLocalConnection (userId : UserId) (conn : Connection) : ServiceCall Unit
  | removeLocalConnection (userId : UserId) : ServiceCall Unit
  | removeFromBucket (bucket : ℕ) (conn : Connection) : ServiceCall (Option UserId)
  | getLocalConnection (userId : UserId) : ServiceCall (Option Connection)
  | getOrCreateLocalDispatcher (loop : ℕ) : ServiceCall ℕ
  | send (conn : Connection) (outgoing : Outgoing) : ServiceCall Unit
  | iterationOrder : ServiceCall (List ℕ)

/-- What the first locked section of `getOrCreateChannel` finds: a channel to the
same endpoint, one to another endpoint, which it takes out, or none. -/
inductive ChannelFound
  | current (channel : ℕ)
  | stale (channel : ℕ)
  | absent

/-- What the router does on its own data: the nodes it has warmed, and the map of
its channels. -/
inductive RouterCall : Type → Type
  | warm (nodeId instanceId : CString) : RouterCall Bool
  | findChannel (channelKey interIp : CString) (interPort : UInt16) : RouterCall ChannelFound
  | createChannel (nodeMeta : NodeMeta) : RouterCall ℕ
  | publishChannel (channelKey : CString) (channel : ℕ) : RouterCall (Option ℕ)
  | takeChannels : RouterCall (List ℕ)

/-- What the handlers do. -/
inductive ServerCall (β : Type)
  | registry (call : RegistryCall β)
  | service (call : ServiceCall β)
  | dispatch (dispatcher : ℕ) (call : DispatchCall LocalDeliveryTask β)
  | router (call : RouterCall β)
  | channel (channel : ℕ) (call : ChannelCall Frame β)
  | database (call : DatabaseCall β)

/-- Call a method of the registry. -/
def registry {α : Type} (program : Calls RegistryCall α) : Calls ServerCall α :=
  program.lift fun call => .registry call

def service {β : Type} (call : ServiceCall β) : Calls ServerCall β := Calls.perform (.service call)

def router {β : Type} (call : RouterCall β) : Calls ServerCall β := Calls.perform (.router call)

def database {β : Type} (call : DatabaseCall β) : Calls ServerCall β :=
  Calls.perform (.database call)

/-- Do something to one delivery queue. -/
def onDispatcher {α : Type} (dispatcher : ℕ)
    (program : Calls (DispatchCall LocalDeliveryTask) α) : Calls ServerCall α :=
  program.lift fun call => .dispatch dispatcher call

/-- Do something to one channel. -/
def onChannel {α : Type} (channel : ℕ) (program : Calls (ChannelCall Frame) α) :
    Calls ServerCall α :=
  program.lift fun call => .channel channel call

section Bind

variable {α β : Type}

@[simp] theorem service_bind (call : ServiceCall β) (cont : β → Calls ServerCall α) :
    (service call >>= cont) = .call (.service call) cont := rfl

@[simp] theorem router_bind (call : RouterCall β) (cont : β → Calls ServerCall α) :
    (router call >>= cont) = .call (.router call) cont := rfl

@[simp] theorem database_bind (call : DatabaseCall β) (cont : β → Calls ServerCall α) :
    (database call >>= cont) = .call (.database call) cont := rfl

end Bind

end ClusterChat
