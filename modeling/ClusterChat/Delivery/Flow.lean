/-
# A delivery queue among others

A delivery queue keeps its order whatever else its users do, as long as a thread that is told to
schedule a drain schedules one before it does anything else to a queue. How many threads are about
to start a drain is all that the queue has to know of them.
-/

import ClusterChat.Delivery.Dispatcher

namespace ClusterChat

/-- Only a thread that is about to start a drain makes this call. -/
def schedules {T : Type} : {β : Type} → DispatchCall T β → Bool
  | _, .push _ => false
  | _, .isInLoopThread => true
  | _, .drainLocalDeliveriesInLoop => true
  | _, .drained => false
  | _, .queueInLoop => true

/-- What a call puts into the queue, if there is room. -/
def offered {T : Type} : {β : Type} → DispatchCall T β → List T
  | _, .push task => [task]
  | _, _ => []

namespace DeliveryLoop

variable {T : Type}

/-- A delivery queue in good order, with so many threads about to start a drain. -/
structure InFlow (loop : DeliveryLoop T) (starting : ℕ) : Prop where
  fifo : loop.sent ++ loop.drains.flatMap Drain.tasks ++ loop.dispatcher.pending =
    loop.accepted.map Prod.snd
  single : starting + loop.queuedDrains + loop.drains.length = loop.dispatcher.flushScheduled.toNat
  scheduled : loop.dispatcher.pending ≠ [] → loop.dispatcher.flushScheduled = true
  bounded : loop.dispatcher.pending.length ≤ loop.dispatcher.pendingLimit

theorem inFlow_create (limit : ℕ) : InFlow (.create limit : DeliveryLoop T) 0 where
  fifo := rfl
  single := rfl
  scheduled waiting := absurd rfl waiting
  bounded := Nat.zero_le _

variable {loop next : DeliveryLoop T} {starting : ℕ}

/-- At most one drain works at a time, and then none is queued or about to start. -/
theorem InFlow.drains_eq (flow : loop.InFlow starting) {index : ℕ} {drain : Drain T}
    (found : loop.drains[index]? = some drain) :
    loop.drains = [drain] ∧ index = 0 ∧ loop.queuedDrains = 0 ∧ starting = 0 := by
  have single := flow.single
  have most := Bool.toNat_le loop.dispatcher.flushScheduled
  have inside := (List.getElem?_eq_some_iff.mp found).1
  have one : loop.drains.length = 1 := by omega
  obtain ⟨only, alone⟩ := List.length_eq_one_iff.mp one
  have first : index = 0 := by omega
  have same : only = drain := by
    rw [alone, first] at found
    exact Option.some.inj found
  refine ⟨?_, first, ?_, ?_⟩
  · rw [alone, same]
  · omega
  · omega

/-- **A call keeps the order**, and the thread is about to start a drain after it where the queue
has told it so. -/
theorem InFlow.exec {others number : ℕ} {inLoop : Bool} {β : Type} {request : DispatchCall T β}
    {answer : β} (flow : loop.InFlow (others + (schedules request).toNat))
    (ran : loop.exec number inLoop request = some (answer, next)) :
    next.InFlow (others + (startsDrain request answer).toNat) := by
  have single := flow.single
  cases request with
  | push task =>
    rw [DeliveryLoop.exec, LocalLoopDispatcher.push] at ran
    by_cases full : loop.dispatcher.pendingLimit ≤ loop.dispatcher.pending.length
    · rw [if_pos full] at ran
      cases ran
      exact ⟨flow.fifo, single, flow.scheduled, flow.bounded⟩
    · rw [if_neg full] at ran
      cases ran
      refine ⟨?_, ?_, fun _ => rfl, ?_⟩
      · rw [List.map_append, ← flow.fifo, List.map_singleton, List.append_assoc _ _ [task]]
      · -- the flag was clear exactly if this thread is to start the drain
        simp only [schedules, startsDrain] at single ⊢
        cases flag : loop.dispatcher.flushScheduled <;>
          simp only [flag, Bool.not_false, Bool.not_true, Bool.toNat_false, Bool.toNat_true]
            at single ⊢ <;> omega
      · rw [List.length_append, List.length_singleton]
        exact Nat.not_le.mp full
  | isInLoopThread =>
    cases ran
    exact ⟨flow.fifo, single, flow.scheduled, flow.bounded⟩
  | drainLocalDeliveriesInLoop =>
    cases ran
    refine ⟨?_, ?_, flow.scheduled, flow.bounded⟩
    · simpa using flow.fifo
    · simp only [schedules, startsDrain, Bool.toNat_true, Bool.toNat_false, List.length_append,
        List.length_singleton] at single ⊢
      omega
  | drained =>
    rw [DeliveryLoop.exec] at ran
    split at ran
    · cases ran
    · cases ran
      exact ⟨flow.fifo, single, flow.scheduled, flow.bounded⟩
  | queueInLoop =>
    cases ran
    refine ⟨flow.fifo, ?_, flow.scheduled, flow.bounded⟩
    simp only [schedules, startsDrain, Bool.toNat_true, Bool.toNat_false] at single ⊢
    omega

/-- What a queue has taken after a call it had taken before, or the call has offered it. -/
theorem mem_accepted_exec {number : ℕ} {inLoop : Bool} {β : Type} {request : DispatchCall T β}
    {answer : β} (ran : loop.exec number inLoop request = some (answer, next)) :
    ∀ pair ∈ next.accepted, pair ∈ loop.accepted ∨ pair.2 ∈ offered request := by
  intro pair listed
  cases request with
  | push task =>
    rw [DeliveryLoop.exec, LocalLoopDispatcher.push] at ran
    split at ran
    · cases ran
      exact .inl listed
    · cases ran
      rcases List.mem_append.mp listed with old | new
      · exact .inl old
      · obtain rfl := List.mem_singleton.mp new
        exact .inr List.mem_cons_self
  | drained =>
    rw [DeliveryLoop.exec] at ran
    split at ran
    · cases ran
    · cases ran
      exact .inl listed
  | _ =>
    cases ran
    exact .inl listed

/-- A call sends nothing by itself. -/
theorem sent_exec {number : ℕ} {inLoop : Bool} {β : Type} {request : DispatchCall T β} {answer : β}
    (ran : loop.exec number inLoop request = some (answer, next)) : next.sent = loop.sent := by
  cases request with
  | push task =>
    rw [DeliveryLoop.exec, LocalLoopDispatcher.push] at ran
    split at ran <;> cases ran <;> rfl
  | drained =>
    rw [DeliveryLoop.exec] at ran
    split at ran
    · cases ran
    · cases ran
      rfl
  | _ =>
    cases ran
    rfl

/-- The loop takes a drain from its queue. -/
theorem InFlow.runQueued (flow : loop.InFlow starting) (ran : loop.runQueued = some next) :
    next.InFlow starting := by
  have single := flow.single
  unfold DeliveryLoop.runQueued at ran
  split at ran
  · cases ran
  · cases ran
    refine ⟨?_, ?_, flow.scheduled, flow.bounded⟩
    · simpa using flow.fifo
    · simp only [List.length_append, List.length_singleton]
      omega

/-- The drain goes on: it is the only one, so what it takes is next in line. -/
theorem InFlow.drainStep (flow : loop.InFlow starting) {index : ℕ}
    (ran : loop.drainStep index = some next) : next.InFlow starting := by
  have fifo := flow.fifo
  have single := flow.single
  unfold DeliveryLoop.drainStep at ran
  cases found : loop.drains[index]? with
  | none =>
    rw [found] at ran
    cases ran
  | some drain =>
    obtain ⟨alone, rfl, unqueued, rfl⟩ := flow.drains_eq found
    rw [alone] at fifo single
    rw [List.flatMap_singleton] at fifo
    simp only [alone, List.getElem?_cons_zero] at ran
    cases batch : drain.tasks with
    | cons task rest =>
      rw [batch] at fifo
      simp only [batch] at ran
      cases ran
      refine ⟨?_, single, flow.scheduled, flow.bounded⟩
      simpa using fifo
    | nil =>
      rw [batch, List.append_nil] at fifo
      cases waiting : loop.dispatcher.pending with
      | nil =>
        simp only [batch, LocalLoopDispatcher.swapOut, waiting] at ran
        cases ran
        refine ⟨?_, ?_, fun some => absurd rfl some, Nat.zero_le _⟩
        · simpa [waiting] using fifo
        · simp [unqueued]
      | cons task rest =>
        simp only [batch, LocalLoopDispatcher.swapOut, waiting] at ran
        cases ran
        refine ⟨?_, single, fun none => absurd rfl none, Nat.zero_le _⟩
        rw [waiting] at fifo
        simpa using fifo

/-- A drain that is taken from the queue of the loop has sent nothing yet. -/
theorem kept_runQueued (ran : loop.runQueued = some next) :
    next.accepted = loop.accepted ∧ next.sent = loop.sent := by
  unfold DeliveryLoop.runQueued at ran
  split at ran
  · cases ran
  · cases ran
    exact ⟨rfl, rfl⟩

/-- **A step of a drain** sends the task that it has come to, if any. -/
theorem kept_drainStep {index : ℕ} (ran : loop.drainStep index = some next) :
    next.accepted = loop.accepted ∧ next.sent = loop.sent ++ (loop.nextSend index).toList := by
  unfold DeliveryLoop.drainStep at ran
  unfold DeliveryLoop.nextSend
  cases found : loop.drains[index]? with
  | none =>
    rw [found] at ran
    cases ran
  | some drain =>
    simp only [found] at ran
    cases batch : drain.tasks with
    | cons task rest =>
      simp only [batch] at ran
      cases ran
      exact ⟨rfl, by simp [batch]⟩
    | nil =>
      simp only [batch] at ran
      split at ran <;> cases ran <;> exact ⟨rfl, by simp [batch]⟩

/-- The task that a drain has come to is one that the queue has taken. -/
theorem InFlow.nextSend_mem (flow : loop.InFlow starting) {index : ℕ} {task : T}
    (due : loop.nextSend index = some task) : task ∈ loop.accepted.map Prod.snd := by
  obtain ⟨drain, found, first⟩ := Option.bind_eq_some_iff.mp due
  have listed : task ∈ loop.drains.flatMap Drain.tasks :=
    List.mem_flatMap.mpr ⟨drain, List.mem_of_getElem? found, List.mem_of_mem_head? first⟩
  rw [← flow.fifo]
  exact List.mem_append_left _ (List.mem_append_right _ listed)

end DeliveryLoop

end ClusterChat
