/-
# What becomes of a task in a delivery queue

A task that a delivery queue has accepted waits in the queue or in the batch of a
drain until the drain sends it. Each step moves tasks along and makes none up.
-/

import ClusterChat.Concurrency.Tally
import ClusterChat.Delivery.Dispatcher

namespace ClusterChat

namespace DeliveryLoop

variable {T : Type}

/-- The tasks in the custody of a loop. -/
def held (loop : DeliveryLoop T) : List T :=
  loop.dispatcher.pending ++ loop.drains.flatMap Drain.tasks

/-- The reply to a task that was put into the queue. -/
def pushedReply : PushReply → Bool
  | .full => false
  | .pushed _ => true

/-- What a call puts into the custody of the loop. -/
def cameByCall : {β : Type} → DispatchCall T β → β → List T
  | _, .push task, reply => if pushedReply reply then [task] else []
  | _, .isInLoopThread, _ => []
  | _, .drainLocalDeliveriesInLoop, _ => []
  | _, .drained, _ => []
  | _, .queueInLoop, _ => []

variable {weight : T → ℕ} {loop next : DeliveryLoop T}

/-- **A call keeps the books.** -/
theorem tally_held_exec {number : ℕ} {inLoop : Bool} {β : Type} {request : DispatchCall T β}
    {answer : β} (ran : loop.exec number inLoop request = some (answer, next)) :
    tally weight next.held = tally weight loop.held + tally weight (cameByCall request answer) := by
  cases request with
  | push task =>
    rw [exec, LocalLoopDispatcher.push] at ran
    by_cases full : loop.dispatcher.pendingLimit ≤ loop.dispatcher.pending.length
    · rw [if_pos full] at ran
      obtain ⟨rfl, rfl⟩ := Prod.mk.inj (Option.some.inj ran)
      rfl
    · rw [if_neg full] at ran
      obtain ⟨rfl, rfl⟩ := Prod.mk.inj (Option.some.inj ran)
      simp only [held, cameByCall, pushedReply, if_true, tally_append]
      omega
  | isInLoopThread =>
    obtain ⟨-, rfl⟩ := Prod.mk.inj (Option.some.inj ran)
    rfl
  | drainLocalDeliveriesInLoop =>
    obtain ⟨-, rfl⟩ := Prod.mk.inj (Option.some.inj ran)
    simp [held, cameByCall]
  | drained =>
    rw [exec] at ran
    split at ran
    · cases ran
    · obtain ⟨-, rfl⟩ := Prod.mk.inj (Option.some.inj ran)
      rfl
  | queueInLoop =>
    obtain ⟨-, rfl⟩ := Prod.mk.inj (Option.some.inj ran)
    rfl

theorem tally_held_runQueued (ran : loop.runQueued = some next) :
    tally weight next.held = tally weight loop.held := by
  unfold runQueued at ran
  split at ran
  · cases ran
  · obtain rfl := Option.some.inj ran
    simp [held]

/-- **A step of a drain** lets go of the task it sends, and of nothing else. -/
theorem tally_held_drainStep {index : ℕ} (ran : loop.drainStep index = some next) :
    tally weight next.held + tally weight (loop.nextSend index).toList =
      tally weight loop.held := by
  unfold drainStep at ran
  unfold nextSend
  cases found : loop.drains[index]? with
  | none =>
    simp only [found] at ran
    cases ran
  | some drain =>
    have replaced : ∀ tasks, tally (fun drain => tally weight drain.tasks)
        (loop.drains.set index { drain with tasks := tasks }) + tally weight drain.tasks =
          tally (fun drain => tally weight drain.tasks) loop.drains + tally weight tasks :=
      fun tasks => tally_set_add _ found _
    simp only [found] at ran
    cases tasks : drain.tasks with
    | cons task rest =>
      simp only [tasks] at ran
      obtain rfl := Option.some.inj ran
      have moved := replaced rest
      simp only [tasks, tally_cons] at moved
      simp only [held, tally_append, tally_flatMap, Option.bind_some, tasks, List.head?_cons,
        Option.toList_some, tally_singleton]
      omega
    | nil =>
      simp only [tasks] at ran
      cases pending : loop.dispatcher.pending with
      | nil =>
        simp only [LocalLoopDispatcher.swapOut, pending] at ran
        obtain rfl := Option.some.inj ran
        have erased := tally_eraseIdx_add (fun drain => tally weight drain.tasks) found
        simp only [tasks, tally_nil] at erased
        simp [held, tally_flatMap, tasks, pending]
        omega
      | cons task rest =>
        simp only [LocalLoopDispatcher.swapOut, pending] at ran
        obtain rfl := Option.some.inj ran
        have moved := replaced (task :: rest)
        simp only [tasks, tally_nil] at moved
        simp [held, tally_flatMap, tasks, pending] at moved ⊢
        omega

end DeliveryLoop

end ClusterChat
