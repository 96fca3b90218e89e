/-
# Local delivery

A message for a connected user is not sent by the thread that handles it.
`enqueueLocalDelivery` puts it into the queue of the loop that owns the
connection, and `drainLocalDeliveriesInLoop` sends queued messages on that loop,
batch by batch, until it finds the queue empty. A flag keeps a second drain from
being scheduled while one is on its way: the producer that sets it starts the
drain, inline when it runs on the loop itself, and the drain clears it when it
stops.

Whatever the interleaving of producers and drains, messages are sent in the order
in which they were queued, each once, one drain at a time, and one is on its way
whenever the queue is not empty.
-/

import ClusterChat.Concurrency.Pool

namespace ClusterChat

/-- The queue of one event loop. -/
structure LocalLoopDispatcher (T : Type) where
  pending : List T
  flushScheduled : Bool
  pendingLimit : ℕ

/-- What the locked section of an enqueue says: the queue is full, or the task
is queued and the caller may have to schedule a drain. -/
inductive PushReply
  | full
  | pushed (shouldSchedule : Bool)

namespace LocalLoopDispatcher

variable {T : Type}

/-- The locked section of `enqueueLocalDelivery`. -/
def push (dispatcher : LocalLoopDispatcher T) (task : T) : PushReply × LocalLoopDispatcher T :=
  if dispatcher.pendingLimit ≤ dispatcher.pending.length then (.full, dispatcher)
  else
    (.pushed (!dispatcher.flushScheduled),
      { dispatcher with pending := dispatcher.pending ++ [task], flushScheduled := true })

/-- The locked section of `drainLocalDeliveriesInLoop`: the batch swapped out,
empty when the drain is to return. -/
def swapOut (dispatcher : LocalLoopDispatcher T) : List T × LocalLoopDispatcher T :=
  match dispatcher.pending with
  | [] => ([], { dispatcher with flushScheduled := false })
  | task :: rest => (task :: rest, { dispatcher with pending := [] })

end LocalLoopDispatcher

/-- A drain at work: the thread that called it, if one waits for it, and what
is left of its batch. -/
structure Drain (T : Type) where
  caller : Option ℕ
  tasks : List T

/-- A loop with its dispatcher: drains in the queue of the loop, drains at work,
the tasks queued so far with the threads that queued them, the tasks sent. -/
structure DeliveryLoop (T : Type) where
  dispatcher : LocalLoopDispatcher T
  queuedDrains : ℕ
  drains : List (Drain T)
  accepted : List (ℕ × T)
  sent : List T

/-- What a thread does to the dispatcher of a loop. The call of a drain and its
return are two calls, and the thread waits for the second one. -/
inductive DispatchCall (T : Type) : Type → Type
  | push (task : T) : DispatchCall T PushReply
  | isInLoopThread : DispatchCall T Bool
  | drainLocalDeliveriesInLoop : DispatchCall T Unit
  | drained : DispatchCall T Unit
  | queueInLoop : DispatchCall T Unit

/-- `ChatService::enqueueLocalDelivery`. -/
def enqueueLocalDelivery {T : Type} (task : T) : Calls (DispatchCall T) Bool := do
  match ← Calls.perform (.push task) with
  | .full => return false
  | .pushed false => return true
  | .pushed true =>
    if ← Calls.perform .isInLoopThread then
      Calls.perform .drainLocalDeliveriesInLoop
      Calls.perform .drained
      return true
    else
      Calls.perform .queueInLoop
      return true

namespace DeliveryLoop

variable {T : Type}

/-- A loop with a new dispatcher, as `getOrCreateLocalDispatcher` makes it. -/
def create (limit : ℕ) : DeliveryLoop T := ⟨⟨[], false, limit⟩, 0, [], [], []⟩

/-- The effect of a call by a thread that runs on the loop, or does not. -/
def exec (number : ℕ) (inLoop : Bool) {β : Type} :
    DispatchCall T β → DeliveryLoop T → Option (β × DeliveryLoop T)
  | .push task, loop =>
    match loop.dispatcher.push task with
    | (.full, dispatcher) => some (.full, { loop with dispatcher := dispatcher })
    | (.pushed shouldSchedule, dispatcher) =>
      some (.pushed shouldSchedule,
        { loop with dispatcher := dispatcher, accepted := loop.accepted ++ [(number, task)] })
  | .isInLoopThread, loop => some (inLoop, loop)
  | .drainLocalDeliveriesInLoop, loop =>
    some ((), { loop with drains := loop.drains ++ [⟨some number, []⟩] })
  | .drained, loop =>
    if loop.drains.any fun drain => drain.caller = some number then none else some ((), loop)
  | .queueInLoop, loop => some ((), { loop with queuedDrains := loop.queuedDrains + 1 })

/-- The loop runs a drain from its queue. -/
def runQueued (loop : DeliveryLoop T) : Option (DeliveryLoop T) :=
  match loop.queuedDrains with
  | 0 => none
  | more + 1 => some { loop with queuedDrains := more, drains := loop.drains ++ [⟨none, []⟩] }

/-- The task that a drain is about to send. -/
def nextSend (loop : DeliveryLoop T) (index : ℕ) : Option T :=
  (loop.drains[index]?).bind fun drain => drain.tasks.head?

/-- The next step of a drain: send the first task of its batch, or swap out the
next batch, or return. -/
def drainStep (loop : DeliveryLoop T) (index : ℕ) : Option (DeliveryLoop T) :=
  match loop.drains[index]? with
  | none => none
  | some drain =>
    match drain.tasks with
    | task :: rest =>
      some { loop with
        drains := loop.drains.set index { drain with tasks := rest }
        sent := loop.sent ++ [task] }
    | [] =>
      match loop.dispatcher.swapOut with
      | ([], dispatcher) =>
        some { loop with dispatcher := dispatcher, drains := loop.drains.eraseIdx index }
      | (batch, dispatcher) =>
        some { loop with
          dispatcher := dispatcher
          drains := loop.drains.set index { drain with tasks := batch } }

end DeliveryLoop

/-! ### Producers and drains -/

section Contract

variable {T : Type}

/-- After this call a drain is left to start. -/
def startsDrain : {β : Type} → DispatchCall T β → β → Bool
  | _, .push _, .pushed shouldSchedule => shouldSchedule
  | _, .push _, .full => false
  | _, .isInLoopThread, _ => true
  | _, .drainLocalDeliveriesInLoop, _ => false
  | _, .drained, _ => false
  | _, .queueInLoop, _ => false

/-- This call puts a task into the queue. -/
def queues : {β : Type} → DispatchCall T β → β → Bool
  | _, .push _, .pushed _ => true
  | _, .push _, .full => false
  | _, .isInLoopThread, _ => false
  | _, .drainLocalDeliveriesInLoop, _ => false
  | _, .drained, _ => false
  | _, .queueInLoop, _ => false

/-- The thread has set the flag and is about to start the drain. -/
def Scheduling : List (Event (DispatchCall T)) → Bool
  | [] => false
  | event :: _ => startsDrain event.request event.answer

/-- The thread has put its task into the queue. -/
def Queued : List (Event (DispatchCall T)) → Bool
  | [] => false
  | event :: earlier => queues event.request event.answer || Queued earlier

@[simp] theorem scheduling_cons (event : Event (DispatchCall T))
    (earlier : List (Event (DispatchCall T))) :
    Scheduling (event :: earlier) = startsDrain event.request event.answer := rfl

@[simp] theorem queued_cons (event : Event (DispatchCall T))
    (earlier : List (Event (DispatchCall T))) :
    Queued (event :: earlier) = (queues event.request event.answer || Queued earlier) := rfl

/-- What a producer may call, and when. -/
def enqueueGuard (log : List (Event (DispatchCall T))) : {β : Type} → DispatchCall T β → Prop
  | _, .push _ => log = []
  | _, .isInLoopThread => Scheduling log = true ∧ Queued log = true
  | _, .drainLocalDeliveriesInLoop => Scheduling log = true ∧ Queued log = true
  | _, .drained => Scheduling log = false ∧ Queued log = true
  | _, .queueInLoop => Scheduling log = true ∧ Queued log = true

end Contract

/-! ### The invariant -/

section Flow

variable {T : Type}

/-- A loop and its producers in good order. -/
structure Flowing (pool : Pool (DeliveryLoop T) (DispatchCall T) Bool Bool) : Prop where
  fifo : pool.state.sent ++ pool.state.drains.flatMap Drain.tasks ++
    pool.state.dispatcher.pending = pool.state.accepted.map Prod.snd
  single : (pool.threads.countP fun thread => Scheduling thread.log) + pool.state.queuedDrains +
    pool.state.drains.length = pool.state.dispatcher.flushScheduled.toNat
  scheduled : pool.state.dispatcher.pending ≠ [] → pool.state.dispatcher.flushScheduled = true
  bounded : pool.state.dispatcher.pending.length ≤ pool.state.dispatcher.pendingLimit
  once : (pool.state.accepted.map Prod.fst).Nodup
  owned : ∀ number, number ∈ pool.state.accepted.map Prod.fst ↔
    ∃ thread, pool.threads[number]? = some thread ∧ Queued thread.log = true

/-- At most one drain works at a time. -/
theorem Flowing.drains_eq {pool : Pool (DeliveryLoop T) (DispatchCall T) Bool Bool}
    (flowing : Flowing pool) {index : ℕ} {drain : Drain T}
    (found : pool.state.drains[index]? = some drain) :
    pool.state.drains = [drain] ∧ index = 0 ∧ pool.state.queuedDrains = 0 ∧
      (pool.threads.countP fun thread => Scheduling thread.log) = 0 ∧
      pool.state.dispatcher.flushScheduled = true := by
  have single := flowing.single
  have most := Bool.toNat_le pool.state.dispatcher.flushScheduled
  obtain ⟨inside, here⟩ := List.getElem?_eq_some_iff.mp found
  have one : pool.state.drains.length = 1 := by omega
  obtain ⟨only, alone⟩ := List.length_eq_one_iff.mp one
  have first : index = 0 := by omega
  have same : only = drain := by
    rw [alone, first] at found
    exact Option.some.inj found
  refine ⟨by rw [alone, same], first, by omega, by omega, ?_⟩
  cases flag : pool.state.dispatcher.flushScheduled with
  | true => rfl
  | false =>
    rw [flag, Bool.toNat_false] at single
    omega

/-- Who has queued a task, after a thread moved without queueing one. -/
theorem owned_set {pool : Pool (DeliveryLoop T) (DispatchCall T) Bool Bool}
    (flowing : Flowing pool) {number : ℕ} {old new : Thread (DispatchCall T) Bool Bool}
    (found : pool.threads[number]? = some old) (same : Queued new.log = Queued old.log) :
    ∀ other,
    other ∈ pool.state.accepted.map Prod.fst ↔
      ∃ thread, (pool.threads.set number new)[other]? = some thread ∧ Queued thread.log = true := by
  intro other
  rw [flowing.owned other]
  by_cases here : number = other
  · subst here
    have inside := (List.getElem?_eq_some_iff.mp found).1
    rw [List.getElem?_set_self inside, found]
    simp [same]
  · rw [List.getElem?_set_ne here]

/-- **One call of a producer** keeps the loop in good order. -/
theorem Flowing.call {pool next : Pool (DeliveryLoop T) (DispatchCall T) Bool Bool}
    (flowing : Flowing pool) {number : ℕ} {thread : Thread (DispatchCall T) Bool Bool} {β : Type}
    {request : DispatchCall T β} {cont : β → Calls (DispatchCall T) Bool} {answer : β}
    (found : pool.threads[number]? = some thread)
    (permitted : enqueueGuard thread.log request)
    (ran : pool.state.exec number thread.tag request = some (answer, next.state))
    (threads : next.threads = pool.threads.set number (thread.answered request cont answer)) :
    Flowing next := by
  obtain ⟨state, threads'⟩ := next
  obtain rfl : threads' = _ := threads
  have count := ThreadSystem.countP_set_add (fun thread => Scheduling thread.log) found
    (thread.answered request cont answer)
  have single := flowing.single
  cases request with
  | push task =>
    have idle : Scheduling thread.log = false := by rw [permitted]; rfl
    rw [DeliveryLoop.exec, LocalLoopDispatcher.push] at ran
    -- a full queue answers with false and is left as it is
    by_cases full : pool.state.dispatcher.pendingLimit ≤ pool.state.dispatcher.pending.length
    · simp only [if_pos full] at ran
      cases ran
      refine ⟨flowing.fifo, ?_, flowing.scheduled, flowing.bounded, flowing.once,
        owned_set flowing found (by rfl)⟩
      simp only [Thread.answered_log, scheduling_cons, startsDrain, idle] at count
      dsimp only
      omega
    · simp only [if_neg full] at ran
      cases ran
      refine ⟨?_, ?_, fun _ => rfl, ?_, ?_, ?_⟩
      · simp only [List.map_append, ← flowing.fifo, List.map_singleton, List.append_assoc]
      · -- the flag was clear exactly if this thread is to start the drain
        simp only [Thread.answered_log, scheduling_cons, startsDrain, idle] at count
        cases flag : pool.state.dispatcher.flushScheduled <;>
          simp only [flag, Bool.not_false, Bool.not_true, Bool.toNat_false, Bool.toNat_true]
            at count single ⊢ <;> omega
      · rw [List.length_append, List.length_singleton]
        exact Nat.not_le.mp full
      · -- a producer pushes once, so its number is new
        have first : number ∉ pool.state.accepted.map Prod.fst := by
          have unqueued : Queued thread.log = false := by rw [permitted]; rfl
          rw [flowing.owned number, found]
          simp [unqueued]
        rw [List.map_append, List.nodup_append]
        refine ⟨flowing.once, List.nodup_cons.mpr ⟨List.not_mem_nil, .nil⟩, ?_⟩
        intro other member same listed
        rw [List.mem_singleton.mp listed]
        exact fun equal : other = number => first (equal ▸ member)
      · intro other
        simp only [List.map_append, List.map_singleton, List.mem_append, List.mem_singleton,
          flowing.owned other]
        by_cases here : number = other
        · subst here
          have inside := (List.getElem?_eq_some_iff.mp found).1
          rw [List.getElem?_set_self inside]
          simp [queues]
        · rw [List.getElem?_set_ne here]
          simp [Ne.symm here]
  | isInLoopThread =>
    obtain ⟨rfl, rfl⟩ := Prod.mk.inj (Option.some.inj ran)
    refine ⟨flowing.fifo, ?_, flowing.scheduled, flowing.bounded, flowing.once,
      owned_set flowing found (by rfl)⟩
    simp only [Thread.answered_log, permitted.1, scheduling_cons, startsDrain] at count
    dsimp only
    omega
  | drainLocalDeliveriesInLoop =>
    cases ran
    refine ⟨?_, ?_, flowing.scheduled, flowing.bounded, flowing.once,
      owned_set flowing found (by rfl)⟩
    · simpa using flowing.fifo
    · simp only [Thread.answered_log, permitted.1, scheduling_cons, startsDrain, Bool.toNat_true,
        Bool.toNat_false] at count
      simp only [List.length_append, List.length_singleton]
      omega
  | drained =>
    -- a producer in the loop thread goes on when its own drain has returned
    rw [DeliveryLoop.exec] at ran
    split at ran
    · cases ran
    obtain ⟨rfl, rfl⟩ := Prod.mk.inj (Option.some.inj ran)
    refine ⟨flowing.fifo, ?_, flowing.scheduled, flowing.bounded, flowing.once,
      owned_set flowing found (by rfl)⟩
    simp only [Thread.answered_log, permitted.1, scheduling_cons, startsDrain] at count
    dsimp only
    omega
  | queueInLoop =>
    cases ran
    refine ⟨flowing.fifo, ?_, flowing.scheduled, flowing.bounded, flowing.once,
      owned_set flowing found (by rfl)⟩
    simp only [Thread.answered_log, permitted.1, scheduling_cons, startsDrain, Bool.toNat_true,
      Bool.toNat_false] at count
    dsimp only
    omega

/-- The loop takes a drain from its queue. -/
theorem Flowing.runQueued {pool : Pool (DeliveryLoop T) (DispatchCall T) Bool Bool}
    (flowing : Flowing pool) {loop : DeliveryLoop T} (ran : pool.state.runQueued = some loop) :
    Flowing ⟨loop, pool.threads⟩ := by
  have single := flowing.single
  rw [DeliveryLoop.runQueued] at ran
  split at ran
  · cases ran
  rename_i more queued
  cases ran
  refine ⟨?_, ?_, flowing.scheduled, flowing.bounded, flowing.once,
        flowing.owned⟩
  · simpa using flowing.fifo
  · simp only [List.length_append, List.length_singleton]
    omega

/-- The drain goes on: it is the only one, so what it takes is next in line. -/
theorem Flowing.drainStep {pool : Pool (DeliveryLoop T) (DispatchCall T) Bool Bool}
    (flowing : Flowing pool) {index : ℕ} {loop : DeliveryLoop T}
    (ran : pool.state.drainStep index = some loop) : Flowing ⟨loop, pool.threads⟩ := by
  have fifo := flowing.fifo
  have single := flowing.single
  rw [DeliveryLoop.drainStep] at ran
  cases found : pool.state.drains[index]? with
  | none =>
    rw [found] at ran
    cases ran
  | some drain =>
    obtain ⟨alone, rfl, unqueued, starting, flag⟩ := flowing.drains_eq found
    simp only [alone] at ran
    rw [alone] at fifo single
    simp only [List.flatMap_singleton] at fifo
    cases batch : drain.tasks with
    | cons task rest =>
      simp only [List.getElem?_cons_zero, batch] at ran
      cases ran
      refine ⟨?_, ?_, flowing.scheduled, flowing.bounded, flowing.once,
        flowing.owned⟩
      · rw [batch] at fifo
        simpa using fifo
      · simpa using single
    | nil =>
      rw [batch, List.append_nil] at fifo
      simp only [List.getElem?_cons_zero, batch, LocalLoopDispatcher.swapOut] at ran
      cases waiting : pool.state.dispatcher.pending with
      | nil =>
        simp only [waiting] at ran
        cases ran
        refine ⟨?_, ?_, fun some => absurd rfl some, Nat.zero_le _, flowing.once, flowing.owned⟩
        · simpa [waiting] using fifo
        · simp [starting, unqueued]
      | cons task rest =>
        simp only [waiting] at ran
        cases ran
        refine ⟨?_, ?_, fun none => absurd rfl none, Nat.zero_le _, flowing.once, flowing.owned⟩
        · rw [waiting] at fifo
          simpa using fifo
        · simpa using single

/-- A producer arrives. -/
theorem Flowing.arrive {pool : Pool (DeliveryLoop T) (DispatchCall T) Bool Bool}
    (flowing : Flowing pool) (job : Bool × Calls (DispatchCall T) Bool) :
    Flowing ⟨pool.state, pool.threads ++ [.start job]⟩ where
  fifo := flowing.fifo
  single := by
    have idle : Scheduling (Thread.start job).log = false := rfl
    rw [List.countP_append, List.countP_singleton, idle]
    exact flowing.single
  scheduled := flowing.scheduled
  bounded := flowing.bounded
  once := flowing.once
  owned other := by
    rw [flowing.owned other]
    have idle : Queued (Thread.start job).log = false := rfl
    rcases Nat.lt_trichotomy other pool.threads.length with old | new | later
    · rw [List.getElem?_append_left old]
    · simpa [new] using idle
    · have beyond : pool.threads.length ≤ other := Nat.le_of_lt later
      rw [List.getElem?_append_right beyond, List.getElem?_eq_none beyond]
      simp [Nat.sub_ne_zero_of_lt later]

end Flow

end ClusterChat
