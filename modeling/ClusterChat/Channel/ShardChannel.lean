/-
# Channels between nodes

A channel carries the messages of one shard to one node over a connection that
comes and goes. Producers, on any thread, send at once while the connection is up
and nothing waits, and otherwise queue; the loop that owns the channel connects,
drains the queue, and hears from the network library when a connection comes up
or goes down, when its output buffer grows past the high-water mark and when it
has been written out.

The network library is modelled by what the channel relies on. Functors run in
the order they were queued, one callback at a time. A connection that goes down
is reported to be so before its callback runs, and the client then tries again.
Bytes go out at once or into a buffer; a buffer that was crossed is written out
or lost with its connection. No callback of an old connection is left when a new
one comes up. Data sent on a connection that is down is dropped.
-/

import ClusterChat.Concurrency.Pool

namespace ClusterChat

/-- The part of `ClusterRouter::ShardChannel` that its mutex guards.
Connections are numbered. -/
structure ShardChannel (μ : Type) where
  connection : Option ℕ
  pending : List μ
  connecting : Bool
  overloaded : Bool
  closing : Bool
  pendingLimit : ℕ

/-- What the client of a channel is doing: nothing, trying to connect, holding a
connection, or holding one that is down and whose callback has not run. -/
inductive Network
  | idle
  | attempting
  | established (link : ℕ)
  | closed (link : ℕ)
  deriving DecidableEq

/-- What waits in the queue of the loop. -/
inductive ChannelFunctor (μ : Type)
  | connect
  | drain
  | send (link : ℕ) (message : μ)
  | highWaterMark (link : ℕ)
  | writeComplete (link : ℕ)
  | stop (link : Option ℕ)

/-- Where the loop stands in the callback it runs. -/
inductive ChannelActivity (μ : Type)
  | idle
  | handleConnection (link : ℕ)
  | ensureClientInLoop
  | connectClient
  | drainPendingInLoop
  | drainSend (link : ℕ) (message : μ)

/-- What the socket does with the next bytes: take them all, or leave some to the
output buffer, which may cross the high-water mark. -/
inductive Socket
  | takesAll
  | buffers (crossed : Bool)

/-- A channel, its loop and its client: the connections so far, whether bytes
wait in the output buffer, messages written but not yet received, messages
dropped, and a record of all that was written. -/
structure ChannelLoop (μ : Type) where
  channel : ShardChannel μ
  client : Bool
  network : Network
  links : ℕ
  functors : List (ChannelFunctor μ)
  activity : ChannelActivity μ
  socket : Socket
  backlog : Bool
  wire : List μ
  lost : List μ
  written : List (ℕ × μ)
  fatal : Bool

/-- What a producer does after the locked section of `enqueueOrSend`. -/
inductive EnqueueReply
  | refused
  | direct (link : ℕ)
  | queued
  | queuedConnect
  | queuedDrain

/-- What threads do to a channel. `runInLoop` starts the connect functor and
`returned` waits for it where it runs inline. -/
inductive ChannelCall (μ : Type) : Type → Type
  | enqueue (message : μ) : ChannelCall μ EnqueueReply
  | send (link : ℕ) (message : μ) : ChannelCall μ Unit
  | warm : ChannelCall μ Bool
  | runInLoop : ChannelCall μ Unit
  | returned : ChannelCall μ Unit
  | queueDrain : ChannelCall μ Unit
  | stop : ChannelCall μ (Option ℕ)
  | queueStop (link : Option ℕ) : ChannelCall μ Unit

/-! ### What threads run -/

section Programs

variable {μ : Type}

/-- `ClusterRouter::scheduleConnect`. -/
def scheduleConnect : Calls (ChannelCall μ) Unit := do
  Calls.perform .runInLoop
  Calls.perform .returned

/-- `ClusterRouter::enqueueOrSend`. -/
def enqueueOrSend (message : μ) : Calls (ChannelCall μ) Bool := do
  match ← Calls.perform (.enqueue message) with
  | .refused => return false
  | .direct link =>
    Calls.perform (.send link message)
    return true
  | .queuedConnect =>
    scheduleConnect
    return true
  | .queuedDrain =>
    Calls.perform .queueDrain
    return true
  | .queued => return true

/-- What `ClusterRouter::prewarmNode` does for each channel. -/
def prewarmChannel : Calls (ChannelCall μ) Unit := do
  if ← Calls.perform .warm then scheduleConnect

/-- `ClusterRouter::stopChannel`. -/
def stopChannel : Calls (ChannelCall μ) Unit := do
  let link ← Calls.perform .stop
  Calls.perform (.queueStop link)

end Programs

namespace ChannelLoop

variable {μ : Type}

/-- A new channel. -/
def create (limit : ℕ) : ChannelLoop μ where
  channel := ⟨none, [], false, false, false, limit⟩
  client := false
  network := .idle
  links := 0
  functors := []
  activity := .idle
  socket := .takesAll
  backlog := false
  wire := []
  lost := []
  written := []
  fatal := false

/-- `channel->connection && channel->connection->connected()`. -/
def connected (loop : ChannelLoop μ) : Bool :=
  match loop.channel.connection with
  | none => false
  | some link => loop.network = .established link

/-- Put a functor into the queue of the loop. -/
def queue (loop : ChannelLoop μ) (functor : ChannelFunctor μ) : ChannelLoop μ :=
  { loop with functors := loop.functors ++ [functor] }

/-- Write on a connection from its loop. -/
def write (loop : ChannelLoop μ) (link : ℕ) (message : μ) : ChannelLoop μ :=
  if loop.network = .established link then
    let loop := { loop with
      wire := loop.wire ++ [message]
      written := loop.written ++ [(link, message)] }
    match loop.socket with
    | .takesAll => if loop.backlog then loop else loop.queue (.writeComplete link)
    | .buffers crossed =>
      let loop := { loop with backlog := true }
      if crossed then loop.queue (.highWaterMark link) else loop
  else { loop with lost := loop.lost ++ [message] }

/-- Writing leaves the running callback where it stands. -/
@[simp] theorem write_activity (loop : ChannelLoop μ) (link : ℕ) (message : μ) :
    (loop.write link message).activity = loop.activity := by
  unfold write
  by_cases up : loop.network = .established link
  · simp only [if_pos up]
    split
    · split <;> rfl
    · split <;> rfl
  · rw [if_neg up]

/-- The locked section of `enqueueOrSend`. -/
def enqueue (loop : ChannelLoop μ) (message : μ) : EnqueueReply × ChannelLoop μ :=
  let channel := loop.channel
  if channel.closing then (.refused, loop)
  else
    match loop.connected, channel.overloaded, channel.pending, channel.connection with
    | true, false, [], some link => (.direct link, loop)
    | connected, overloaded, _, _ =>
      if channel.pendingLimit ≤ channel.pending.length then (.refused, loop)
      else
        let pending := channel.pending ++ [message]
        if !connected && !channel.connecting then
          (.queuedConnect,
            { loop with channel := { channel with pending := pending, connecting := true } })
        else
          (if connected && !overloaded then .queuedDrain else .queued,
            { loop with channel := { channel with pending := pending } })

/-- The start of the connect functor: its locked section. -/
def startConnect (loop : ChannelLoop μ) : ChannelLoop μ :=
  if loop.channel.closing || loop.connected then
    { loop with channel := { loop.channel with connecting := false } }
  else { loop with activity := .ensureClientInLoop }

/-- The effect of a call by a thread that is the loop's own, or is not. -/
def exec (inLoop : Bool) {β : Type} : ChannelCall μ β → ChannelLoop μ → Option (β × ChannelLoop μ)
  | .enqueue message, loop => some (loop.enqueue message)
  | .send link message, loop =>
    if loop.network = .established link then
      some ((), if inLoop then loop.write link message else loop.queue (.send link message))
    else some ((), { loop with lost := loop.lost ++ [message] })
  | .warm, loop =>
    if !loop.channel.closing && !loop.connected && !loop.channel.connecting then
      some (true, { loop with channel := { loop.channel with connecting := true } })
    else some (false, loop)
  | .runInLoop, loop =>
    if inLoop then
      match loop.activity with
      | .idle => some ((), loop.startConnect)
      | _ => none
    else some ((), loop.queue .connect)
  | .returned, loop =>
    match inLoop, loop.activity with
    | false, _ => some ((), loop)
    | true, .idle => some ((), loop)
    | true, _ => none
  | .queueDrain, loop => some ((), loop.queue .drain)
  | .stop, loop =>
    some (loop.channel.connection,
      { loop with
        channel := { loop.channel with
          closing := true, connecting := false, pending := [], connection := none }
        lost := loop.lost ++ loop.channel.pending })
  | .queueStop link, loop => some ((), loop.queue (.stop link))

/-! ### The loop -/

/-- The loop takes the next functor and runs it up to its first pause. -/
def runFunctor (loop : ChannelLoop μ) : Option (ChannelLoop μ) :=
  match loop.activity, loop.functors with
  | .idle, functor :: rest =>
    let loop := { loop with functors := rest }
    match functor with
    | .connect => some loop.startConnect
    | .drain => some { loop with activity := .drainPendingInLoop }
    | .send link message => some (loop.write link message)
    | .highWaterMark _ =>
      some { loop with channel := { loop.channel with overloaded := true } }
    | .writeComplete _ =>
      some { loop with
        channel := { loop.channel with overloaded := false }
        activity := .drainPendingInLoop }
    | .stop _ =>
      -- the connection is closed by force and its callback follows; an attempt is given up
      match loop.network with
      | .established link =>
        some { loop with
          client := false
          network := .closed link
          backlog := false
          wire := []
          lost := loop.lost ++ loop.wire
          activity := .handleConnection link }
      | .attempting => some { loop with client := false, network := .idle }
      | _ => some { loop with client := false }
  | _, _ => none

/-- The loop goes on with the callback it runs. -/
def proceed (loop : ChannelLoop μ) : Option (ChannelLoop μ) :=
  match loop.activity with
  | .idle => none
  | .handleConnection link =>
    if loop.network = .established link then
      some { loop with
        channel := { loop.channel with
          connection := some link, connecting := false, overloaded := false }
        activity := .drainPendingInLoop }
    else
      some { loop with
        channel := { loop.channel with
          connection := none, overloaded := false, connecting := !loop.channel.closing }
        network := if loop.client then .attempting else .idle
        activity := .idle }
  | .ensureClientInLoop =>
    some { loop with client := loop.client || !loop.channel.closing, activity := .connectClient }
  | .connectClient =>
    if !loop.client then
      some { loop with
        channel := { loop.channel with connecting := false }
        activity := .idle }
    else if loop.network = .idle then
      some { loop with network := .attempting, activity := .idle }
    else some { loop with fatal := true, activity := .idle }
  | .drainPendingInLoop =>
    if loop.channel.closing || loop.channel.overloaded || !loop.connected then
      some { loop with activity := .idle }
    else
      match loop.channel.pending, loop.channel.connection with
      | message :: rest, some link =>
        some { loop with
          channel := { loop.channel with pending := rest }
          activity := .drainSend link message }
      | _, _ => some { loop with activity := .idle }
  | .drainSend link message =>
    some { loop.write link message with activity := .drainPendingInLoop }

/-- A callback of a connection. -/
def isCallback : ChannelFunctor μ → Bool
  | .highWaterMark _ => true
  | .writeComplete _ => true
  | _ => false

/-- An attempt succeeds; the callback follows. -/
def establish (loop : ChannelLoop μ) : Option (ChannelLoop μ) :=
  match loop.activity, loop.network with
  | .idle, .attempting =>
    if loop.functors.any isCallback then none
    else
      some { loop with
        network := .established loop.links
        links := loop.links + 1
        activity := .handleConnection loop.links }
  | _, _ => none

/-- The connection goes down; the callback follows. -/
def close (loop : ChannelLoop μ) : Option (ChannelLoop μ) :=
  match loop.activity, loop.network with
  | .idle, .established link =>
    some { loop with
      network := .closed link
      backlog := false
      wire := []
      lost := loop.lost ++ loop.wire
      activity := .handleConnection link }
  | _, _ => none

/-- The output buffer has been written out. -/
def flush (loop : ChannelLoop μ) : Option (ChannelLoop μ) :=
  match loop.activity, loop.network, loop.backlog with
  | .idle, .established link, true =>
    some ({ loop with backlog := false }.queue (.writeComplete link))
  | _, _, _ => none

/-- The other side takes a message off the connection. -/
def receive (loop : ChannelLoop μ) : Option (μ × ChannelLoop μ) :=
  match loop.wire with
  | [] => none
  | message :: rest => some (message, { loop with wire := rest })

end ChannelLoop

/-- What happens on a channel besides the calls of threads. -/
inductive ChannelEvent (μ : Type)
  | enqueueOrSend (message : μ) (inLoop : Bool)
  | prewarm (inLoop : Bool)
  | stopChannel (inLoop : Bool)
  | runFunctor
  | proceed
  | establish
  | close
  | flush
  | receive
  | socket (mood : Socket)

/-- Any threads that use a channel, its loop and the network. -/
def channelSystem (μ : Type) :
    ThreadSystem (ChannelLoop μ) (ChannelCall μ) Bool Bool (ChannelEvent μ) where
  exec _ inLoop _ request loop := loop.exec inLoop request
  environment
    | .enqueueOrSend message inLoop, loop => some (loop, [(inLoop, enqueueOrSend message)])
    | .prewarm inLoop, loop => some (loop, [(inLoop, do prewarmChannel; return true)])
    | .stopChannel inLoop, loop => some (loop, [(inLoop, do stopChannel; return true)])
    | .runFunctor, loop => loop.runFunctor.map (·, [])
    | .proceed, loop => loop.proceed.map (·, [])
    | .establish, loop => loop.establish.map (·, [])
    | .close, loop => loop.close.map (·, [])
    | .flush, loop => loop.flush.map (·, [])
    | .receive, loop => loop.receive.map fun received => (received.2, [])
    | .socket mood, loop => some ({ loop with socket := mood }, [])

/-- A channel nobody has used yet. -/
def freshChannel (μ : Type) (limit : ℕ) : Pool (ChannelLoop μ) (ChannelCall μ) Bool Bool :=
  ⟨.create limit, []⟩

end ClusterChat
