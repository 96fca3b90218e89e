/-
# What becomes of a message in a channel

A message that a channel has accepted waits in the queue, waits in the queue of the
loop to be sent, is on the wire, or is lost; it is received off the wire. Each step
of the channel, its loop and its client moves messages from place to place and
makes none up, and what a step loses is known before it is taken: messages sent on
a connection that is down, messages on the wire of a connection that goes down, and
messages waiting in a channel that is stopped.
-/

import ClusterChat.Channel.ShardChannel
import ClusterChat.Concurrency.Tally

namespace ClusterChat

namespace ChannelLoop

variable {μ : Type}

/-- The message that a functor is to send. -/
def functorMessages : ChannelFunctor μ → List μ
  | .send _ message => [message]
  | _ => []

/-- The message that the running callback is about to send. -/
def activityMessages : ChannelActivity μ → List μ
  | .drainSend _ message => [message]
  | _ => []

/-- The messages in the custody of a channel. -/
def held (loop : ChannelLoop μ) : List μ :=
  loop.channel.pending ++ loop.functors.flatMap functorMessages ++
    activityMessages loop.activity ++ loop.wire

/-! ### What a step loses -/

/-- A message sent on a connection that is down. -/
def lostOnSend (loop : ChannelLoop μ) (link : ℕ) (message : μ) : List μ :=
  if loop.network = .established link then [] else [message]

/-- What a call loses. -/
def lostByCall (loop : ChannelLoop μ) : {β : Type} → ChannelCall μ β → List μ
  | _, .send link message => loop.lostOnSend link message
  | _, .stop => loop.channel.pending
  | _, _ => []

/-- The reply to a message that was put into the queue. -/
def queuedReply : EnqueueReply → Bool
  | .refused => false
  | .direct _ => false
  | .queued => true
  | .queuedConnect => true
  | .queuedDrain => true

/-- What a call puts into the custody of the channel, or loses at once. -/
def cameByCall : {β : Type} → ChannelCall μ β → β → List μ
  | _, .enqueue message, reply => if queuedReply reply then [message] else []
  | _, .send _ message, _ => [message]
  | _, .warm, _ => []
  | _, .runInLoop, _ => []
  | _, .returned, _ => []
  | _, .queueDrain, _ => []
  | _, .stop, _ => []
  | _, .queueStop _, _ => []

/-- What is on the wire of an established connection. -/
def onWire (loop : ChannelLoop μ) : List μ :=
  match loop.network with
  | .established _ => loop.wire
  | _ => []

/-- What the next functor loses. -/
def lostByFunctor (loop : ChannelLoop μ) : List μ :=
  match loop.functors with
  | .send link message :: _ => loop.lostOnSend link message
  | .stop _ :: _ => loop.onWire
  | _ => []

/-- What the running callback loses when it goes on. -/
def lostByActivity (loop : ChannelLoop μ) : List μ :=
  match loop.activity with
  | .drainSend link message => loop.lostOnSend link message
  | _ => []

theorem onWire_up {loop : ChannelLoop μ} {link : ℕ} (up : loop.network = .established link) :
    loop.onWire = loop.wire := by
  rw [onWire, up]

theorem onWire_down {loop : ChannelLoop μ} (down : ∀ link, loop.network ≠ .established link) :
    loop.onWire = [] := by
  unfold onWire
  split
  · rename_i link up
    exact absurd up (down link)
  · rfl

/-! ### Conservation -/

/-- How a step leaves the books: `came` was taken over, `went` was lost. -/
structure Booked (weight : μ → ℕ) (loop next : ChannelLoop μ) (came went : List μ) : Prop where
  held : tally weight next.held + tally weight went = tally weight loop.held + tally weight came
  lost : next.lost = loop.lost ++ went

variable {weight : μ → ℕ} {loop next : ChannelLoop μ}

/-- A functor put at the end of the queue of the loop. -/
theorem tally_held_queue (loop : ChannelLoop μ) (functor : ChannelFunctor μ) :
    tally weight (loop.queue functor).held =
      tally weight loop.held + tally weight (functorMessages functor) := by
  simp only [held, queue, List.flatMap_append, List.flatMap_cons, List.flatMap_nil, tally_append,
    List.append_nil]
  omega

/-- Writing puts the message on the wire or loses it, and queues no message. -/
theorem booked_write (weight : μ → ℕ) (loop : ChannelLoop μ) (link : ℕ) (message : μ) :
    Booked weight loop (loop.write link message) [message] (loop.lostOnSend link message) := by
  unfold write lostOnSend
  by_cases up : loop.network = .established link
  · simp only [if_pos up]
    constructor
    · split
      · split <;> simp [held, queue, functorMessages, tally_append] <;> omega
      · split <;> simp [held, queue, functorMessages, tally_append] <;> omega
    · split
      · split <;> simp [queue]
      · split <;> simp [queue]
  · simp only [if_neg up]
    exact ⟨by simp [held], rfl⟩

/-- A step that moves no message. -/
theorem Booked.still (held : next.held = loop.held) (lost : next.lost = loop.lost) :
    Booked weight loop next [] [] := by
  constructor
  · rw [held]
  · rw [lost, List.append_nil]

theorem booked_enqueue (loop : ChannelLoop μ) (message : μ) :
    Booked weight loop (loop.enqueue message).2
      (if queuedReply (loop.enqueue message).1 then [message] else []) [] := by
  have waits : ∀ channel : ShardChannel μ, channel.pending = loop.channel.pending ++ [message] →
      Booked weight loop { loop with channel := channel } [message] [] := by
    intro channel pending
    constructor
    · simp only [held, pending, tally_append, tally_cons, tally_nil]
      omega
    · exact (List.append_nil _).symm
  unfold enqueue
  dsimp only
  split
  · exact .still rfl rfl
  · split
    · exact .still rfl rfl
    · split
      · exact .still rfl rfl
      · split
        · exact waits _ rfl
        · split
          · exact waits _ rfl
          · exact waits _ rfl

theorem startConnect_held (idle : loop.activity = .idle) :
    loop.startConnect.held = loop.held ∧ loop.startConnect.lost = loop.lost := by
  unfold startConnect
  split
  · exact ⟨rfl, rfl⟩
  · exact ⟨by simp [held, idle, activityMessages], rfl⟩

/-- **A call keeps the books.** -/
theorem booked_exec {inLoop : Bool} {β : Type} {request : ChannelCall μ β} {answer : β}
    (ran : loop.exec inLoop request = some (answer, next)) :
    Booked weight loop next (cameByCall request answer) (loop.lostByCall request) := by
  cases request with
  | enqueue message =>
    obtain ⟨rfl, rfl⟩ := Prod.mk.inj (Option.some.inj ran)
    exact booked_enqueue loop message
  | send link message =>
    rw [exec] at ran
    by_cases up : loop.network = .established link
    · rw [if_pos up] at ran
      obtain ⟨-, rfl⟩ := Prod.mk.inj (Option.some.inj ran)
      cases inLoop with
      | true => exact booked_write weight loop link message
      | false =>
        -- the message waits in the posted functor
        have none : loop.lostByCall (.send link message) = [] := if_pos up
        rw [none]
        constructor
        · exact (tally_held_queue loop _)
        · exact (List.append_nil _).symm
    · rw [if_neg up] at ran
      obtain ⟨-, rfl⟩ := Prod.mk.inj (Option.some.inj ran)
      -- a send on a connection that is no longer up loses its message
      have lost : loop.lostByCall (.send link message) = [message] := if_neg up
      rw [lost]
      exact ⟨rfl, rfl⟩
  | warm =>
    rw [exec] at ran
    split at ran
    · obtain ⟨-, rfl⟩ := Prod.mk.inj (Option.some.inj ran)
      exact .still rfl rfl
    · obtain ⟨-, rfl⟩ := Prod.mk.inj (Option.some.inj ran)
      exact .still rfl rfl
  | runInLoop =>
    rw [exec] at ran
    split at ran
    · split at ran
      · rename_i idle
        obtain ⟨-, rfl⟩ := Prod.mk.inj (Option.some.inj ran)
        exact .still (startConnect_held idle).1 (startConnect_held idle).2
      · cases ran
    · obtain ⟨-, rfl⟩ := Prod.mk.inj (Option.some.inj ran)
      exact ⟨tally_held_queue loop _, (List.append_nil _).symm⟩
  | returned =>
    simp only [exec] at ran
    split at ran
    · obtain ⟨-, rfl⟩ := Prod.mk.inj (Option.some.inj ran)
      exact .still rfl rfl
    · obtain ⟨-, rfl⟩ := Prod.mk.inj (Option.some.inj ran)
      exact .still rfl rfl
    · cases ran
  | queueDrain =>
    obtain ⟨-, rfl⟩ := Prod.mk.inj (Option.some.inj ran)
    exact ⟨tally_held_queue loop _, (List.append_nil _).symm⟩
  | stop =>
    obtain ⟨-, rfl⟩ := Prod.mk.inj (Option.some.inj ran)
    constructor
    · -- stopChannel clears what is still pending
      simp only [held, lostByCall, cameByCall, tally_append, tally_nil, List.nil_append]
      omega
    · rfl
  | queueStop link =>
    obtain ⟨-, rfl⟩ := Prod.mk.inj (Option.some.inj ran)
    exact ⟨tally_held_queue loop _, (List.append_nil _).symm⟩

/-- Taking the next functor off the queue of the loop. -/
theorem tally_held_functor (weight : μ → ℕ) {functor : ChannelFunctor μ}
    {rest : List (ChannelFunctor μ)}
    (functors : loop.functors = functor :: rest) :
    tally weight { loop with functors := rest }.held + tally weight (functorMessages functor) =
      tally weight loop.held := by
  simp only [held, functors, List.flatMap_cons, tally_append]
  omega

/-- A functor that moves no message. -/
theorem Booked.of_functor {functor : ChannelFunctor μ} {rest : List (ChannelFunctor μ)}
    (functors : loop.functors = functor :: rest) (empty : functorMessages functor = [])
    (held : next.held = { loop with functors := rest }.held) (lost : next.lost = loop.lost) :
    Booked weight loop next [] [] := by
  have taken := tally_held_functor weight functors
  rw [empty, tally_nil, Nat.add_zero] at taken
  constructor
  · rw [held, taken]
  · rw [lost, List.append_nil]

/-- **A functor keeps the books.** -/
theorem booked_runFunctor (ran : loop.runFunctor = some next) :
    Booked weight loop next [] loop.lostByFunctor := by
  unfold runFunctor at ran
  split at ran
  · rename_i functor rest idle functors
    unfold lostByFunctor
    rw [functors]
    cases functor with
    | connect =>
      obtain rfl := Option.some.inj ran
      have idle' : { loop with functors := rest }.activity = .idle := idle
      exact .of_functor functors rfl (startConnect_held idle').1 (startConnect_held idle').2
    | drain =>
      obtain rfl := Option.some.inj ran
      exact .of_functor functors rfl (by simp [held, idle, activityMessages]) rfl
    | send link message =>
      obtain rfl := Option.some.inj ran
      -- the posted send is written now, or lost with its link
      have books := booked_write weight { loop with functors := rest } link message
      have taken := tally_held_functor weight functors
      constructor
      · have held := books.held
        simp only [functorMessages, tally_singleton, tally_nil] at taken held ⊢
        exact (by simpa [lostOnSend] using held.trans taken)
      · exact books.lost
    | highWaterMark link =>
      obtain rfl := Option.some.inj ran
      exact .of_functor functors rfl rfl rfl
    | writeComplete link =>
      obtain rfl := Option.some.inj ran
      exact .of_functor functors rfl (by simp [held, idle, activityMessages]) rfl
    | stop link =>
      have taken := tally_held_functor weight functors
      rw [show functorMessages (.stop link : ChannelFunctor μ) = [] from rfl, tally_nil,
        Nat.add_zero] at taken
      -- when the link goes down, what is on the wire goes with it
      have dropped : ∀ (next : ChannelLoop μ),
          next.channel = loop.channel → next.functors = rest →
          activityMessages next.activity = [] → next.wire = [] →
            next.lost = loop.lost ++ loop.wire →
          Booked weight loop next [] loop.wire := by
        intro next channel functors activity wire lost
        refine ⟨?_, lost⟩
        have quiet : activityMessages loop.activity = [] := by
          rw [idle]
          rfl
        simp only [held, quiet, tally_append, tally_nil] at taken
        simp only [held, channel, functors, activity, wire, quiet, tally_append, tally_nil]
        omega
      dsimp only at ran ⊢
      split at ran
      · rename_i established
        obtain rfl := Option.some.inj ran
        rw [onWire_up established]
        exact dropped _ rfl rfl rfl rfl rfl
      · -- an attempt that is given up has nothing on the wire
        rename_i attempting
        obtain rfl := Option.some.inj ran
        rw [onWire_down fun link up => nomatch attempting.symm.trans up]
        exact .of_functor functors rfl rfl rfl
      · rename_i down _
        obtain rfl := Option.some.inj ran
        rw [onWire_down down]
        exact .of_functor functors rfl rfl rfl
  · cases ran

/-- **A callback that goes on keeps the books.** -/
theorem booked_proceed (ran : loop.proceed = some next) :
    Booked weight loop next [] loop.lostByActivity := by
  unfold proceed at ran
  unfold lostByActivity
  cases activity : loop.activity with
  | idle =>
    simp only [activity] at ran
    cases ran
  | handleConnection link =>
    simp only [activity] at ran
    split at ran
    · obtain rfl := Option.some.inj ran
      exact .still (by simp [held, activity, activityMessages]) rfl
    · obtain rfl := Option.some.inj ran
      exact .still (by simp [held, activity, activityMessages]) rfl
  | ensureClientInLoop =>
    simp only [activity] at ran
    obtain rfl := Option.some.inj ran
    exact .still (by simp [held, activity, activityMessages]) rfl
  | connectClient =>
    simp only [activity] at ran
    split at ran
    · obtain rfl := Option.some.inj ran
      exact .still (by simp [held, activity, activityMessages]) rfl
    · split at ran
      · obtain rfl := Option.some.inj ran
        exact .still (by simp [held, activity, activityMessages]) rfl
      · obtain rfl := Option.some.inj ran
        exact .still (by simp [held, activity, activityMessages]) rfl
  | drainPendingInLoop =>
    simp only [activity] at ran
    split at ran
    · obtain rfl := Option.some.inj ran
      exact .still (by simp [held, activity, activityMessages]) rfl
    · split at ran
      · rename_i message rest link pending connection
        obtain rfl := Option.some.inj ran
        refine ⟨?_, (List.append_nil _).symm⟩
        -- the message leaves the queue for the callback
        simp only [held, activity, pending, activityMessages, tally_append, tally_cons, tally_nil]
        omega
      · obtain rfl := Option.some.inj ran
        exact .still (by simp [held, activity, activityMessages]) rfl
  | drainSend link message =>
    simp only [activity] at ran
    obtain rfl := Option.some.inj ran
    have books := booked_write weight loop link message
    refine ⟨?_, books.lost⟩
    have kept : (loop.write link message).activity = .drainSend link message :=
      (write_activity loop link message).trans activity
    have moved := books.held
    simp only [held, kept, activityMessages, tally_append, tally_cons, tally_nil] at moved ⊢
    omega

theorem booked_establish (ran : loop.establish = some next) : Booked weight loop next [] [] := by
  unfold establish at ran
  split at ran
  · rename_i idle attempting
    split at ran
    · cases ran
    · obtain rfl := Option.some.inj ran
      exact .still (by simp [held, idle, activityMessages]) rfl
  · cases ran

theorem booked_close (ran : loop.close = some next) : Booked weight loop next [] loop.onWire := by
  unfold close at ran
  split at ran
  · rename_i link idle established
    obtain rfl := Option.some.inj ran
    rw [onWire_up established]
    refine ⟨?_, rfl⟩
    simp only [held, idle, activityMessages, tally_append, tally_nil]
    omega
  · cases ran

theorem booked_flush (ran : loop.flush = some next) : Booked weight loop next [] [] := by
  unfold flush at ran
  split at ran
  · obtain rfl := Option.some.inj ran
    exact ⟨tally_held_queue { loop with backlog := false } _, (List.append_nil _).symm⟩
  · cases ran

/-- What the other side receives leaves the custody of the channel. -/
theorem tally_held_receive {message : μ} (ran : loop.receive = some (message, next)) :
    tally weight next.held + weight message = tally weight loop.held ∧ next.lost = loop.lost := by
  unfold receive at ran
  split at ran
  · cases ran
  · rename_i first rest wire
    obtain ⟨rfl, rfl⟩ := Prod.mk.inj (Option.some.inj ran)
    refine ⟨?_, rfl⟩
    simp only [held, wire, tally_append, tally_cons]
    omega

end ChannelLoop

end ClusterChat
