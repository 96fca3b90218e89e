/-
# One connect attempt at a time

Whoever finds a channel unconnected and nobody connecting sets `connecting` and owes the
loop a connect functor. The debt moves from the thread to the queue of the loop and on to the
running callback, and while it lasts the client is idle. A client that tries again after a
disconnection does so without a debt: the callback sets `connecting` itself. Between the
moment the connection is down and its callback, nobody has done so yet.
-/

import ClusterChat.Channel.Senders
import ClusterChat.Concurrency.Tally

namespace ClusterChat

open ChannelLoop

variable {μ : Type}

/-! ### Who starts a connect -/

/-- The locked section of a call would find the channel unconnected and nobody connecting,
set `connecting`, and have its thread schedule a connect. -/
def ChannelLoop.startsConnect (loop : ChannelLoop μ) : {β : Type} → ChannelCall μ β → Bool
  | _, .enqueue _ =>
    !loop.channel.closing && !loop.connected && !loop.channel.connecting &&
      decide (loop.channel.pending.length < loop.channel.pendingLimit)
  | _, .warm => !loop.channel.closing && !loop.connected && !loop.channel.connecting
  | _, _ => false

/-- The next call of a program would. -/
def startsNext {ρ : Type} (loop : ChannelLoop μ) : Calls (ChannelCall μ) ρ → Bool
  | .ret _ => false
  | .call request _ => loop.startsConnect request

/-- The connection is down and its callback has not run. -/
def ChannelLoop.unreported (loop : ChannelLoop μ) : Bool :=
  match loop.network with
  | .closed _ => true
  | _ => false

/-- A thread starts a connect only after the callback of the last disconnection. -/
def AfterCallback (pool : Pool (ChannelLoop μ) (ChannelCall μ) Bool Bool) :
    Turn (ChannelEvent μ) → Prop
  | .thread number =>
    ∀ thread ∈ pool.threads[number]?, startsNext pool.state thread.rest = true →
      pool.state.unreported = false
  | .environment _ => True

instance (pool : Pool (ChannelLoop μ) (ChannelCall μ) Bool Bool) :
    (turn : Turn (ChannelEvent μ)) → Decidable (AfterCallback pool turn)
  | .thread number =>
    have _ (thread : Thread (ChannelCall μ) Bool Bool) :
        Decidable (startsNext pool.state thread.rest = true → pool.state.unreported = false) :=
      inferInstance
    inferInstanceAs (Decidable (∀ thread ∈ pool.threads[number]?,
      startsNext pool.state thread.rest = true → pool.state.unreported = false))
  | .environment _ => .isTrue trivial

/-! ### Connects that are owed -/

/-- The answer obliges the thread to schedule a connect. -/
def obliges : {β : Type} → ChannelCall μ β → β → Bool
  | _, .enqueue _, .queuedConnect => true
  | _, .warm, true => true
  | _, _, _ => false

/-- The thread owes the loop a connect functor. -/
def owesConnect : List (Event (ChannelCall μ)) → Bool
  | [] => false
  | event :: _ => obliges event.request event.answer

/-- A thread schedules a connect where it owes one, and nowhere else. -/
def connectsGuard (log : List (Event (ChannelCall μ))) : {β : Type} → ChannelCall μ β → Prop
  | _, .runInLoop => owesConnect log = true
  | _, _ => owesConnect log = false

/-- A thread returns without debts. -/
def settled {ρ : Type} (log : List (Event (ChannelCall μ))) (_ : ρ) : Prop :=
  owesConnect log = false

theorem enqueueOrSend_connects (message : μ) :
    (enqueueOrSend message).Meets connectsGuard settled [] := by
  refine ⟨rfl, fun answer => ?_⟩
  cases answer with
  | refused => exact rfl
  | direct link => exact ⟨rfl, fun _ => rfl⟩
  | queued => exact rfl
  | queuedConnect => exact ⟨rfl, fun _ => ⟨rfl, fun _ => rfl⟩⟩
  | queuedDrain => exact ⟨rfl, fun _ => rfl⟩

theorem prewarmChannel_connects :
    (do prewarmChannel; return true : Calls (ChannelCall μ) Bool).Meets connectsGuard
      settled [] := by
  refine ⟨rfl, fun answer => ?_⟩
  cases answer with
  | true => exact ⟨rfl, fun _ => ⟨rfl, fun _ => rfl⟩⟩
  | false => exact rfl

theorem stopChannel_connects :
    (do stopChannel; return true : Calls (ChannelCall μ) Bool).Meets connectsGuard settled [] :=
  ⟨rfl, fun _ => ⟨rfl, fun _ => rfl⟩⟩

/-- A functor that will connect. -/
def ChannelFunctor.connects : ChannelFunctor μ → ℕ
  | .connect => 1
  | _ => 0

/-- The running callback is about to connect. -/
def ChannelActivity.connects : ChannelActivity μ → ℕ
  | .ensureClientInLoop => 1
  | .connectClient => 1
  | _ => 0

namespace ChannelLoop

/-- Connects that wait in the loop. -/
def due (loop : ChannelLoop μ) : ℕ :=
  tally ChannelFunctor.connects loop.functors + loop.activity.connects

/-- What holds of a channel while threads owe the loop `owed` connects: at most one is on its
way, the client is idle until it is made, and it is marked. -/
structure Guarded (owed : ℕ) (loop : ChannelLoop μ) : Prop where
  calm : loop.fatal = false
  reports : ∀ link, loop.activity = .handleConnection link →
    loop.network = .established link ∨ loop.network = .closed link
  closed : ∀ link, loop.network = .closed link → loop.activity = .handleConnection link
  starting : loop.activity.connects = 1 → loop.network = .idle
  single : owed + loop.due ≤ 1
  requested : loop.channel.closing = false → 0 < owed + loop.due →
    loop.network = .idle ∧ loop.channel.connecting = true
  attempting : loop.channel.closing = false → loop.network = .attempting →
    loop.channel.connecting = true
  established : ∀ link, loop.channel.closing = false → loop.network = .established link →
    (loop.activity = .handleConnection link ∧ loop.channel.connecting = true) ∨
      loop.channel.connection = some link

variable {loop after : ChannelLoop μ} {owed : ℕ}

theorem due_congr (functors : after.functors = loop.functors)
    (activity : after.activity = loop.activity) : after.due = loop.due := by
  rw [due, due, functors, activity]

/-- A step that touches neither the client nor the marks, and makes no connect. -/
theorem Guarded.still (guarded : loop.Guarded owed) (calm : after.fatal = loop.fatal)
    (activity : after.activity = loop.activity) (network : after.network = loop.network)
    (due : after.due = loop.due) (closing : after.channel.closing = loop.channel.closing)
    (connecting : after.channel.connecting = loop.channel.connecting)
    (connection : after.channel.connection = loop.channel.connection) : after.Guarded owed := by
  constructor
  · rw [calm]
    exact guarded.calm
  · rw [activity, network]
    exact guarded.reports
  · rw [activity, network]
    exact guarded.closed
  · rw [activity, network]
    exact guarded.starting
  · rw [due]
    exact guarded.single
  · rw [due, closing, network, connecting]
    exact guarded.requested
  · rw [closing, network, connecting]
    exact guarded.attempting
  · rw [closing, network, activity, connecting, connection]
    exact guarded.established

/-- Callbacks of connections connect nothing. -/
theorem tally_callbacks {callbacks : List (ChannelFunctor μ)}
    (silent : ∀ functor ∈ callbacks, isCallback functor = true) :
    tally ChannelFunctor.connects callbacks = 0 := by
  induction callbacks with
  | nil => rfl
  | cons functor rest ih =>
    have head := silent functor (List.mem_cons_self ..)
    have none : functor.connects = 0 := by
      cases functor with
      | connect => cases head
      | _ => rfl
    rw [tally_cons, none, ih fun other listed => silent other (List.mem_cons_of_mem _ listed)]

theorem Guarded.write (guarded : loop.Guarded owed) (link : ℕ) (message : μ) :
    (loop.write link message).Guarded owed := by
  obtain ⟨-, network, channel, callbacks, functors, silent⟩ := write_frame loop link message
  have activity := write_activity loop link message
  have due : (loop.write link message).due = loop.due := by
    rw [ChannelLoop.due, ChannelLoop.due, functors, activity, tally_append,
      tally_callbacks silent, Nat.add_zero]
  have calm : (loop.write link message).fatal = loop.fatal := by
    unfold ChannelLoop.write
    by_cases up : loop.network = .established link
    · simp only [if_pos up]
      split
      · split <;> rfl
      · split <;> rfl
    · rw [if_neg up]
  exact guarded.still calm activity network due
    (by rw [channel]) (by rw [channel]) (by rw [channel])

/-- Only functors that connect nothing join the queue. -/
theorem Guarded.queue (guarded : loop.Guarded owed) {functor : ChannelFunctor μ}
    (silent : functor.connects = 0) : (loop.queue functor).Guarded owed := by
  refine guarded.still rfl rfl rfl ?_ rfl rfl rfl
  rw [due, due, ChannelLoop.queue, tally_append, tally_singleton, silent, Nat.add_zero]

/-- **A producer that starts a connect** finds the client idle and no connect on its way. -/
theorem Guarded.idle (guarded : loop.Guarded owed) (closing : loop.channel.closing = false)
    (unconnected : loop.connected = false) (unmarked : loop.channel.connecting = false)
    (reported : loop.unreported = false) : loop.network = .idle ∧ owed + loop.due = 0 := by
  have marked : loop.channel.connecting ≠ true := by
    rw [unmarked]
    exact Bool.false_ne_true
  constructor
  · cases network : loop.network with
    | idle => rfl
    | attempting => exact absurd (guarded.attempting closing network) marked
    | established link =>
      rcases guarded.established link closing network with ⟨-, connecting⟩ | known
      · exact absurd connecting marked
      · rw [connected, known] at unconnected
        exact absurd network (of_decide_eq_false unconnected)
    | closed link =>
      rw [unreported, network] at reported
      cases reported
  · by_contra on
    exact marked (guarded.requested closing (Nat.pos_of_ne_zero on)).2

/-- The producer marks the channel, and owes a connect. -/
theorem Guarded.mark (guarded : loop.Guarded owed) (closing : loop.channel.closing = false)
    (unconnected : loop.connected = false) (unmarked : loop.channel.connecting = false)
    (reported : loop.unreported = false) (calm : after.fatal = loop.fatal)
    (activity : after.activity = loop.activity) (network : after.network = loop.network)
    (functors : after.functors = loop.functors) (marked : after.channel.connecting = true) :
    after.Guarded (owed + 1) := by
  obtain ⟨idle, none⟩ := guarded.idle closing unconnected unmarked reported
  have due := due_congr functors activity
  constructor
  · rw [calm]
    exact guarded.calm
  · rw [activity, network]
    exact guarded.reports
  · rw [activity, network]
    exact guarded.closed
  · rw [activity, network]
    exact guarded.starting
  · omega
  · intro _ _
    exact ⟨network.trans idle, marked⟩
  · intro _ _
    exact marked
  · intro link _ up
    rw [network, idle] at up
    cases up

/-- What the locked section of `enqueueOrSend` does to the marks. -/
theorem enqueue_marks (loop : ChannelLoop μ) (message : μ) :
    (loop.enqueue message).2.fatal = loop.fatal ∧
      (loop.enqueue message).2.channel.closing = loop.channel.closing ∧
      ((obliges (.enqueue message) (loop.enqueue message).1 = false ∧
          (loop.enqueue message).2.channel.connecting = loop.channel.connecting) ∨
        (obliges (.enqueue message) (loop.enqueue message).1 = true ∧
          loop.startsConnect (.enqueue message) = true ∧
          (loop.enqueue message).2.channel.connecting = true)) := by
  unfold enqueue
  by_cases closing : loop.channel.closing = true
  · rw [if_pos closing]
    exact ⟨rfl, rfl, .inl ⟨rfl, rfl⟩⟩
  · rw [if_neg closing]
    dsimp only
    split
    · exact ⟨rfl, rfl, .inl ⟨rfl, rfl⟩⟩
    · by_cases full : loop.channel.pendingLimit ≤ loop.channel.pending.length
      · rw [if_pos full]
        exact ⟨rfl, rfl, .inl ⟨rfl, rfl⟩⟩
      · rw [if_neg full]
        -- a message that waits starts a connect only on a channel that is down and unmarked
        by_cases starts : (!loop.connected && !loop.channel.connecting) = true
        · rw [if_pos starts]
          refine ⟨rfl, rfl, .inr ⟨rfl, ?_, rfl⟩⟩
          rw [Bool.and_eq_true] at starts
          have room := decide_eq_true (Nat.not_le.mp full)
          simp only [startsConnect, Bool.not_eq_true] at closing ⊢
          rw [closing, starts.1, starts.2, room]
          rfl
        · rw [if_neg starts]
          refine ⟨rfl, rfl, .inl ⟨?_, rfl⟩⟩
          split <;> rfl

/-- Once the channel is closing only the callbacks and a connect on its way matter. -/
theorem Guarded.closed_still (guarded : loop.Guarded owed) (calm : after.fatal = loop.fatal)
    (activity : after.activity = loop.activity) (network : after.network = loop.network)
    (due : after.due = loop.due) (closing : after.channel.closing = true) :
    after.Guarded owed := by
  have shut : after.channel.closing ≠ false := by
    rw [closing]
    exact Bool.noConfusion
  constructor
  · rw [calm]
    exact guarded.calm
  · rw [activity, network]
    exact guarded.reports
  · rw [activity, network]
    exact guarded.closed
  · rw [activity, network]
    exact guarded.starting
  · rw [due]
    exact guarded.single
  · exact fun open_ => absurd open_ shut
  · exact fun open_ => absurd open_ shut
  · exact fun _ open_ => absurd open_ shut

theorem Guarded.fewer {fewer : ℕ} (guarded : loop.Guarded owed) (less : fewer ≤ owed) :
    loop.Guarded fewer := by
  have single := guarded.single
  refine ⟨guarded.calm, guarded.reports, guarded.closed, guarded.starting, by omega, ?_,
    guarded.attempting, guarded.established⟩
  intro closing some
  exact guarded.requested closing (by omega)

/-- A connection is not up while a connect is on its way. -/
theorem Guarded.not_connected (guarded : loop.Guarded owed) (some : 0 < owed + loop.due)
    (closing : loop.channel.closing = false) : loop.connected = false := by
  have idle := (guarded.requested closing some).1
  rw [connected]
  cases loop.channel.connection with
  | none => rfl
  | some link => exact decide_eq_false fun up => Network.noConfusion (idle.symm.trans up)

/-- **A debt that is paid** is a connect that begins, or is not needed. -/
theorem Guarded.startConnect (guarded : loop.Guarded (owed + 1)) (idle : loop.activity = .idle) :
    loop.startConnect.Guarded owed := by
  have single := guarded.single
  unfold ChannelLoop.startConnect
  cases closing : loop.channel.closing with
  | true => exact (guarded.fewer (Nat.le_succ owed)).closed_still rfl rfl rfl rfl closing
  | false =>
    rw [guarded.not_connected (by omega) closing]
    obtain ⟨unused, marked⟩ := guarded.requested closing (by omega)
    have due : owed + ChannelLoop.due { loop with activity := .ensureClientInLoop } =
        owed + 1 + loop.due := by
      rw [ChannelLoop.due, ChannelLoop.due, idle]
      exact (Nat.add_right_comm owed 1 _).symm
    refine ⟨guarded.calm, fun _ runs => ?_, fun link down => ?_, fun _ => unused, ?_,
      fun _ _ => ⟨unused, marked⟩, fun _ _ => marked, fun link _ up => ?_⟩
    · cases runs
    · exact Network.noConfusion (unused.symm.trans down)
    · exact Nat.le_trans (Nat.le_of_eq due) single
    · exact Network.noConfusion (unused.symm.trans up)

/-- A debt moves from the thread to the queue of the loop. -/
theorem Guarded.post (guarded : loop.Guarded (owed + 1)) : (loop.queue .connect).Guarded owed := by
  have due : (loop.queue .connect).due = loop.due + 1 := by
    rw [ChannelLoop.due, ChannelLoop.due, ChannelLoop.queue, tally_append, tally_singleton]
    exact Nat.add_right_comm ..
  have same : owed + (loop.queue .connect).due = owed + 1 + loop.due := by omega
  refine ⟨guarded.calm, guarded.reports, guarded.closed, guarded.starting, ?_, ?_,
    guarded.attempting, guarded.established⟩
  · rw [same]
    exact guarded.single
  · rw [same]
    exact guarded.requested

/-- **A call of a thread** keeps the channel guarded, with the debts of the thread. -/
theorem Guarded.exec {log : List (Event (ChannelCall μ))} {inLoop : Bool} {β : Type}
    {request : ChannelCall μ β} {answer : β}
    (guarded : loop.Guarded (owed + (owesConnect log).toNat)) (guard : connectsGuard log request)
    (reported : loop.startsConnect request = true → loop.unreported = false)
    (ran : loop.exec inLoop request = some (answer, after)) :
    after.Guarded (owed + (obliges request answer).toNat) := by
  -- only a thread that owes a connect comes with a debt
  have free (none : owesConnect log = false) : loop.Guarded owed := by
    rw [none] at guarded
    exact guarded
  cases request with
  | enqueue message =>
    have acted : loop.enqueue message = (answer, after) := Option.some.inj ran
    obtain rfl : (loop.enqueue message).1 = answer := congrArg Prod.fst acted
    obtain rfl : (loop.enqueue message).2 = after := congrArg Prod.snd acted
    obtain ⟨connection, -, functors, -, activity, network, -⟩ := enqueue_frame loop message
    obtain ⟨calm, closing, ⟨none, marked⟩ | ⟨obliged, starts, marked⟩⟩ := enqueue_marks loop message
    · rw [none]
      exact (free guard).still calm activity network (due_congr functors activity) closing marked
        connection
    · rw [obliged]
      have reported := reported starts
      simp only [startsConnect, Bool.and_eq_true, Bool.not_eq_true'] at starts
      obtain ⟨⟨⟨open_, unconnected⟩, unmarked⟩, -⟩ := starts
      exact (free guard).mark open_ unconnected unmarked reported calm activity network functors
        marked
  | send link message =>
    simp only [ChannelLoop.exec] at ran
    split at ran
    · obtain ⟨-, rfl⟩ := Prod.mk.inj (Option.some.inj ran)
      cases inLoop with
      | true => exact (free guard).write link message
      | false => exact (free guard).queue rfl
    · obtain ⟨-, rfl⟩ := Prod.mk.inj (Option.some.inj ran)
      exact (free guard).still rfl rfl rfl rfl rfl rfl rfl
  | warm =>
    simp only [ChannelLoop.exec] at ran
    split at ran
    · rename_i starts
      obtain ⟨rfl, rfl⟩ := Prod.mk.inj (Option.some.inj ran)
      have reported := reported starts
      simp only [Bool.and_eq_true, Bool.not_eq_true'] at starts
      obtain ⟨⟨open_, unconnected⟩, unmarked⟩ := starts
      exact (free guard).mark open_ unconnected unmarked reported rfl rfl rfl rfl rfl
    · obtain ⟨rfl, rfl⟩ := Prod.mk.inj (Option.some.inj ran)
      exact free guard
  | runInLoop =>
    have owes : owesConnect log = true := guard
    rw [owes] at guarded
    cases inLoop with
    | false =>
      obtain ⟨-, rfl⟩ := Prod.mk.inj (Option.some.inj ran)
      exact guarded.post
    | true =>
      cases idle : loop.activity with
      | idle =>
        simp only [ChannelLoop.exec, idle, if_true] at ran
        obtain ⟨-, rfl⟩ := Prod.mk.inj (Option.some.inj ran)
        exact guarded.startConnect idle
      | _ => simp [ChannelLoop.exec, idle] at ran
  --  returned =>|a thread waits for a callback here, and changes nothing
  | returned =>
    have same : after = loop := by
      simp only [ChannelLoop.exec] at ran
      split at ran
      · exact (Prod.mk.inj (Option.some.inj ran)).2.symm
      · exact (Prod.mk.inj (Option.some.inj ran)).2.symm
      · cases ran
    subst same
    exact free guard
  | queueDrain =>
    obtain ⟨-, rfl⟩ := Prod.mk.inj (Option.some.inj ran)
    exact (free guard).queue rfl
  | stop =>
    obtain ⟨-, rfl⟩ := Prod.mk.inj (Option.some.inj ran)
    exact (free guard).closed_still rfl rfl rfl rfl rfl
  | queueStop link =>
    obtain ⟨-, rfl⟩ := Prod.mk.inj (Option.some.inj ran)
    exact (free guard).queue rfl

/-! ### The loop -/

theorem drain_ne {link : ℕ} :
    (.drainPendingInLoop : ChannelActivity μ) ≠ .handleConnection link := by
  intro same
  cases same

/-- The loop turns from one thing to another that is not the client's. -/
theorem Guarded.turnTo (guarded : loop.Guarded owed) {activity : ChannelActivity μ}
    (was : loop.activity.connects = 0) (is : activity.connects = 0)
    (noCallback : ∀ link, loop.activity ≠ .handleConnection link)
    (other : ∀ link, activity ≠ .handleConnection link) :
    Guarded owed { loop with activity := activity } := by
  have due : ChannelLoop.due { loop with activity := activity } = loop.due := by
    rw [ChannelLoop.due, ChannelLoop.due, was, is]
  have single := guarded.single
  have requested := guarded.requested
  rw [← due] at single requested
  refine ⟨guarded.calm, fun link runs => absurd runs (other link), fun link down => ?_,
    fun connects => ?_, single, requested, guarded.attempting, fun link open_ up => ?_⟩
  · exact absurd (guarded.closed link down) (noCallback link)
  · exact absurd (is.symm.trans connects) Nat.zero_ne_one
  · rcases guarded.established link open_ up with ⟨runs, -⟩ | known
    · exact absurd runs (noCallback link)
    · exact .inr known

/-- The next functor leaves the queue, with its debt. -/
theorem Guarded.takeFunctor (guarded : loop.Guarded owed) {functor : ChannelFunctor μ}
    {rest : List (ChannelFunctor μ)} (queued : loop.functors = functor :: rest) :
    Guarded (owed + functor.connects) { loop with functors := rest } := by
  have due : owed + functor.connects + ChannelLoop.due { loop with functors := rest } =
      owed + loop.due := by
    rw [ChannelLoop.due, ChannelLoop.due, queued, tally_cons]
    dsimp only
    omega
  have single := guarded.single
  have requested := guarded.requested
  rw [← due] at single requested
  exact ⟨guarded.calm, guarded.reports, guarded.closed, guarded.starting, single, requested,
    guarded.attempting, guarded.established⟩

/-- A connection that was up goes down, and its callback follows. -/
theorem Guarded.down (guarded : loop.Guarded owed) {link : ℕ} (idle : loop.activity = .idle)
    (up : loop.network = .established link) (calm : after.fatal = loop.fatal)
    (channel : after.channel = loop.channel) (functors : after.functors = loop.functors)
    (network : after.network = .closed link) (activity : after.activity = .handleConnection link) :
    after.Guarded owed := by
  have due : after.due = loop.due := by
    rw [ChannelLoop.due, ChannelLoop.due, functors, activity, idle]
    rfl
  constructor
  · rw [calm]
    exact guarded.calm
  · intro other runs
    obtain rfl := ChannelActivity.handleConnection.inj (activity.symm.trans runs)
    exact .inr network
  · intro other closed
    obtain rfl := Network.closed.inj (network.symm.trans closed)
    exact activity
  · intro connects
    rw [activity] at connects
    exact absurd connects Nat.zero_ne_one
  · rw [due]
    exact guarded.single
  · -- a connect on its way would have found the client idle, and it is connected
    intro open_ some
    rw [channel] at open_
    rw [due] at some
    exact Network.noConfusion ((guarded.requested open_ some).1.symm.trans up)
  · intro _ attempts
    exact Network.noConfusion (network.symm.trans attempts)
  · intro other _ stays
    exact Network.noConfusion (network.symm.trans stays)

/-- An attempt is given up. -/
theorem Guarded.giveUp (guarded : loop.Guarded owed) (idle : loop.activity = .idle)
    (attempts : loop.network = .attempting) (calm : after.fatal = loop.fatal)
    (channel : after.channel = loop.channel) (functors : after.functors = loop.functors)
    (activity : after.activity = loop.activity) (network : after.network = .idle) :
    after.Guarded owed := by
  have due := due_congr functors activity
  constructor
  · rw [calm]
    exact guarded.calm
  · intro link runs
    rw [activity, idle] at runs
    cases runs
  · intro link closed
    exact Network.noConfusion (network.symm.trans closed)
  · exact fun _ => network
  · rw [due]
    exact guarded.single
  · intro open_ some
    rw [channel] at open_
    rw [due] at some
    exact Network.noConfusion ((guarded.requested open_ some).1.symm.trans attempts)
  · intro _ still
    exact Network.noConfusion (network.symm.trans still)
  · intro link _ up
    exact Network.noConfusion (network.symm.trans up)

theorem Guarded.runFunctor (guarded : loop.Guarded owed) (ran : loop.runFunctor = some after) :
    after.Guarded owed := by
  unfold ChannelLoop.runFunctor at ran
  split at ran
  · rename_i functor rest idle queued
    -- the functor leaves the queue, and with it the connect that it may have been
    have taken := guarded.takeFunctor queued
    have quiet : loop.activity.connects = 0 := by
      rw [idle]
      rfl
    have noCallback : ∀ link, loop.activity ≠ .handleConnection link := by
      intro link runs
      rw [idle] at runs
      cases runs
    cases functor with
    | connect =>
      obtain rfl := Option.some.inj ran
      exact taken.startConnect idle
    | drain =>
      obtain rfl := Option.some.inj ran
      exact taken.turnTo quiet rfl noCallback fun _ => drain_ne
    | send link message =>
      obtain rfl := Option.some.inj ran
      exact taken.write link message
    | highWaterMark link =>
      obtain rfl := Option.some.inj ran
      exact taken.still rfl rfl rfl rfl rfl rfl rfl
    | writeComplete link =>
      obtain rfl := Option.some.inj ran
      have turned := taken.turnTo quiet rfl noCallback fun _ => drain_ne
      exact turned.still rfl rfl rfl rfl rfl rfl rfl
    --  stop link =>|a connection that is stopped goes down, an attempt is given up
    | stop link =>
      cases network : loop.network with
      | established link =>
        rw [network] at ran
        obtain rfl := Option.some.inj ran
        exact taken.down idle network rfl rfl rfl rfl rfl
      | attempting =>
        rw [network] at ran
        obtain rfl := Option.some.inj ran
        exact taken.giveUp idle network rfl rfl rfl rfl rfl
      | _ =>
        rw [network] at ran
        obtain rfl := Option.some.inj ran
        exact taken.still rfl rfl network.symm rfl rfl rfl rfl
  · cases ran

/-- The callback of a connection that came up. -/
theorem Guarded.cameUp (guarded : loop.Guarded owed) {link : ℕ}
    (runs : loop.activity = .handleConnection link) (up : loop.network = .established link) :
    Guarded owed { loop with
      channel := { loop.channel with
        connection := some link, connecting := false, overloaded := false }
      activity := .drainPendingInLoop } := by
  have due : loop.due = tally ChannelFunctor.connects loop.functors := by
    rw [ChannelLoop.due, runs]
    rfl
  have single := guarded.single
  rw [due] at single
  refine ⟨guarded.calm, fun _ same => absurd same drain_ne, fun other closed => ?_,
    fun connects => absurd connects Nat.zero_ne_one, single, fun open_ some => ?_,
    fun _ attempts => ?_, fun other _ up' => ?_⟩
  · exact Network.noConfusion (up.symm.trans closed)
  · have idle := (guarded.requested open_ (by rw [due]; exact some)).1
    exact Network.noConfusion (idle.symm.trans up)
  · exact Network.noConfusion (up.symm.trans attempts)
  · rw [Network.established.inj (up.symm.trans up')]
    exact .inr rfl

/-- The callback of a connection that went down: the client tries again, and the channel is
marked. -/
theorem Guarded.wentDown (guarded : loop.Guarded owed) {link : ℕ} {network : Network}
    (runs : loop.activity = .handleConnection link) (down : loop.network = .closed link)
    (again : network = .attempting ∨ network = .idle) :
    Guarded owed { loop with
      channel := { loop.channel with
        connection := none, overloaded := false, connecting := !loop.channel.closing }
      network := network
      activity := .idle } := by
  have due : loop.due = tally ChannelFunctor.connects loop.functors := by
    rw [ChannelLoop.due, runs]
    rfl
  have single := guarded.single
  rw [due] at single
  have notUp : ∀ link, network ≠ .established link ∧ network ≠ .closed link := by
    intro link
    rcases again with rfl | rfl
    · exact ⟨fun same => Network.noConfusion same, fun same => Network.noConfusion same⟩
    · exact ⟨fun same => Network.noConfusion same, fun same => Network.noConfusion same⟩
  refine ⟨guarded.calm, fun _ same => ?_, fun other closed => absurd closed (notUp other).2,
    fun connects => absurd connects Nat.zero_ne_one, single, fun open_ some => ?_,
    fun open_ _ => ?_, fun other _ up => absurd up (notUp other).1⟩
  · cases same
  · have idle := (guarded.requested open_ (by rw [due]; exact some)).1
    exact Network.noConfusion (idle.symm.trans down)
  · have open_ : loop.channel.closing = false := open_
    exact congrArg (!·) open_

/-- The client is created, or is there. -/
theorem Guarded.ensured (guarded : loop.Guarded owed) {client : Bool}
    (runs : loop.activity = .ensureClientInLoop) (idle : loop.network = .idle) :
    Guarded owed { loop with client := client, activity := .connectClient } := by
  have due : ChannelLoop.due { loop with client := client, activity := .connectClient } =
      loop.due := by
    rw [ChannelLoop.due, ChannelLoop.due, runs]
    rfl
  have single := guarded.single
  have requested := guarded.requested
  rw [← due] at single requested
  refine ⟨guarded.calm, fun _ same => ?_, fun other closed => ?_, fun _ => idle, single, requested,
    guarded.attempting, fun _ _ up => ?_⟩
  · cases same
  · exact Network.noConfusion (idle.symm.trans closed)
  · exact Network.noConfusion (idle.symm.trans up)

/-- The last step of the connect functor: it connects an idle client, or has none. -/
theorem Guarded.connected (guarded : loop.Guarded owed) (runs : loop.activity = .connectClient)
    {network : Network} {connecting : Bool}
    (outcome : network = .idle ∨ network = .attempting ∧ connecting = loop.channel.connecting) :
    Guarded owed { loop with
      channel := { loop.channel with connecting := connecting }
      network := network
      activity := .idle } := by
  have due : loop.due = tally ChannelFunctor.connects loop.functors + 1 := by
    rw [ChannelLoop.due, runs]
    rfl
  have single := guarded.single
  rw [due] at single
  -- this was the only connect on its way
  have last : owed + tally ChannelFunctor.connects loop.functors = 0 := by omega
  have notUp : ∀ link, network ≠ .established link ∧ network ≠ .closed link := by
    intro link
    rcases outcome with rfl | ⟨rfl, -⟩
    · exact ⟨fun same => Network.noConfusion same, fun same => Network.noConfusion same⟩
    · exact ⟨fun same => Network.noConfusion same, fun same => Network.noConfusion same⟩
  refine ⟨guarded.calm, fun _ same => ?_, fun other closed => absurd closed (notUp other).2,
    fun connects => absurd connects Nat.zero_ne_one,
    Nat.le_trans (Nat.le_of_eq last) (Nat.zero_le 1),
    fun open_ some => absurd last (Nat.ne_of_gt some), fun open_ attempts => ?_,
    fun other _ up => absurd up (notUp other).1⟩
  · cases same
  · rcases outcome with rfl | ⟨-, rfl⟩
    · exact Network.noConfusion attempts
    · exact (guarded.requested open_ (by omega)).2

/-- **A step of a callback** keeps the channel guarded: a connect that is made finds the
client idle. -/
theorem Guarded.proceed (guarded : loop.Guarded owed) (ran : loop.proceed = some after) :
    after.Guarded owed := by
  unfold ChannelLoop.proceed at ran
  split at ran
  · cases ran
  · rename_i link runs
    split at ran
    · rename_i up
      obtain rfl := Option.some.inj ran
      exact guarded.cameUp runs up
    · rename_i notUp
      obtain rfl := Option.some.inj ran
      -- the callback runs for a link that is up or has just gone down
      have down := (guarded.reports link runs).resolve_left notUp
      refine guarded.wentDown runs down ?_
      split
      · exact .inl rfl
      · exact .inr rfl
  · rename_i runs
    obtain rfl := Option.some.inj ran
    -- only a connect on its way runs here, so the client is idle
    have idle : loop.network = .idle := guarded.starting (by rw [runs]; rfl)
    exact guarded.ensured runs idle
  · rename_i runs
    have idle : loop.network = .idle := guarded.starting (by rw [runs]; rfl)
    by_cases absent : (!loop.client) = true
    · rw [if_pos absent] at ran
      obtain rfl := Option.some.inj ran
      have ended : Guarded owed { loop with
          channel := { loop.channel with connecting := false }
          network := loop.network
          activity := .idle } := guarded.connected runs (.inl idle)
      exact ended
    · -- the client is idle, so connect() is called on an idle client
      rw [if_neg absent, if_pos idle] at ran
      obtain rfl := Option.some.inj ran
      exact guarded.connected runs (.inr ⟨rfl, rfl⟩)
  · rename_i runs
    have quiet : loop.activity.connects = 0 := by
      rw [runs]
      rfl
    have noCallback : ∀ link, loop.activity ≠ .handleConnection link := by
      intro link same
      rw [runs] at same
      cases same
    have ended : Guarded owed { loop with activity := .idle } :=
      guarded.turnTo quiet rfl noCallback fun _ same => by cases same
    split at ran
    · obtain rfl := Option.some.inj ran
      exact ended
    · split at ran
      · rename_i message rest link _ _
        obtain rfl := Option.some.inj ran
        have sends : Guarded owed { loop with activity := .drainSend link message } :=
          guarded.turnTo quiet rfl noCallback fun _ same => by cases same
        exact sends.still rfl rfl rfl rfl rfl rfl rfl
      · obtain rfl := Option.some.inj ran
        exact ended
  · rename_i link message runs
    obtain rfl := Option.some.inj ran
    have same := write_activity loop link message
    have quiet : (loop.write link message).activity.connects = 0 := by
      rw [same, runs]
      rfl
    refine (guarded.write link message).turnTo quiet rfl (fun other is => ?_) fun _ => drain_ne
    rw [same, runs] at is
    cases is

/-- An attempt succeeds. -/
theorem Guarded.establish (guarded : loop.Guarded owed) (ran : loop.establish = some after) :
    after.Guarded owed := by
  unfold ChannelLoop.establish at ran
  split at ran
  · rename_i idle attempts
    split at ran
    · cases ran
    · obtain rfl := Option.some.inj ran
      have due : loop.due = tally ChannelFunctor.connects loop.functors := by
        rw [ChannelLoop.due, idle]
        rfl
      have single := guarded.single
      rw [due] at single
      refine ⟨guarded.calm, fun link runs => ?_, fun _ closed => Network.noConfusion closed,
        fun connects => absurd connects Nat.zero_ne_one, single, fun open_ some => ?_,
        fun _ still => Network.noConfusion still, fun link open_ up => .inl ?_⟩
      · exact .inl (congrArg Network.established (ChannelActivity.handleConnection.inj runs))
      · have idle := (guarded.requested open_ (by rw [due]; exact some)).1
        exact Network.noConfusion (idle.symm.trans attempts)
      · rw [← Network.established.inj up]
        exact ⟨rfl, guarded.attempting open_ attempts⟩
  · cases ran

/-- **A step of the loop** keeps the channel guarded. -/
theorem Guarded.moves (guarded : loop.Guarded owed) (moves : loop.Moves after) :
    after.Guarded owed := by
  cases moves with
  | runFunctor ran => exact guarded.runFunctor ran
  | proceed ran => exact guarded.proceed ran
  | establish ran => exact guarded.establish ran
  | close ran =>
    unfold ChannelLoop.close at ran
    split at ran
    · rename_i link idle up
      obtain rfl := Option.some.inj ran
      exact guarded.down idle up rfl rfl rfl rfl rfl
    · cases ran
  | flush ran =>
    unfold ChannelLoop.flush at ran
    split at ran
    · obtain rfl := Option.some.inj ran
      have flushed : Guarded owed { loop with backlog := false } :=
        guarded.still rfl rfl rfl rfl rfl rfl rfl
      exact flushed.queue rfl
    · cases ran
  | receive message ran =>
    obtain rfl := receive_frame ran
    exact guarded.still rfl rfl rfl rfl rfl rfl rfl
  | socket mood changed =>
    subst changed
    exact guarded.still rfl rfl rfl rfl rfl rfl rfl

end ChannelLoop

/-! ### Threads and the loop -/

/-- What holds of every pool: the channel is guarded with the debts of all threads, and each
thread keeps to its contract. -/
structure Orderly (pool : Pool (ChannelLoop μ) (ChannelCall μ) Bool Bool) : Prop where
  channel :
    pool.state.Guarded (tally (fun thread => (owesConnect thread.log).toNat) pool.threads)
  threads : ∀ thread ∈ pool.threads, thread.rest.Meets connectsGuard settled thread.log

variable {pool next : Pool (ChannelLoop μ) (ChannelCall μ) Bool Bool}

theorem orderly_fresh (limit : ℕ) : Orderly (freshChannel μ limit) := by
  refine ⟨⟨rfl, fun _ runs => ?_, fun _ closed => ?_, fun _ => rfl, Nat.zero_le 1, fun _ some => ?_,
    fun _ attempts => ?_, fun _ _ up => ?_⟩, fun thread listed => ?_⟩
  · cases runs
  · cases closed
  · exact absurd some (Nat.lt_irrefl 0)
  · cases attempts
  · cases up
  · cases listed

/-- Every thread keeps to its contract from the start. -/
theorem connects_environment {event : ChannelEvent μ} {loop after : ChannelLoop μ}
    {jobs : List (Bool × Calls (ChannelCall μ) Bool)}
    (acted : (channelSystem μ).environment event loop = some (after, jobs)) :
    ∀ job ∈ jobs, job.2.Meets connectsGuard settled [] := by
  have none {step : Option (ChannelLoop μ)}
      (stepped : step.map (·, ([] : List (Bool × Calls (ChannelCall μ) Bool))) =
        some (after, jobs)) :
      ∀ job ∈ jobs, job.2.Meets connectsGuard settled [] := by
    obtain ⟨result, -, same⟩ := Option.map_eq_some_iff.mp stepped
    obtain ⟨-, rfl⟩ := Prod.mk.inj same
    exact List.forall_mem_nil _
  cases event with
  | enqueueOrSend message inLoop =>
    obtain ⟨-, rfl⟩ := Prod.mk.inj (Option.some.inj acted)
    exact List.forall_mem_singleton.mpr (enqueueOrSend_connects message)
  | prewarm inLoop =>
    obtain ⟨-, rfl⟩ := Prod.mk.inj (Option.some.inj acted)
    exact List.forall_mem_singleton.mpr prewarmChannel_connects
  | stopChannel inLoop =>
    obtain ⟨-, rfl⟩ := Prod.mk.inj (Option.some.inj acted)
    exact List.forall_mem_singleton.mpr stopChannel_connects
  | runFunctor => exact none acted
  | proceed => exact none acted
  | establish => exact none acted
  | close => exact none acted
  | flush => exact none acted
  | receive =>
    obtain ⟨result, -, same⟩ := Option.map_eq_some_iff.mp acted
    obtain ⟨-, rfl⟩ := Prod.mk.inj same
    exact List.forall_mem_nil _
  | socket mood =>
    obtain ⟨-, rfl⟩ := Prod.mk.inj (Option.some.inj acted)
    exact List.forall_mem_nil _

/-- Threads that have just started owe nothing. -/
theorem tally_started (jobs : List (Bool × Calls (ChannelCall μ) Bool)) :
    tally (fun thread : Thread (ChannelCall μ) Bool Bool => (owesConnect thread.log).toNat)
      (jobs.map Thread.start) = 0 := by
  induction jobs with
  | nil => rfl
  | cons job rest ih =>
    rw [List.map_cons, tally_cons, ih, Thread.start_log, owesConnect]
    rfl

/-- **A turn keeps the pool orderly**, if a thread that starts a connect does so after the
callback of the last disconnection. -/
theorem Orderly.turn (orderly : Orderly pool) {turn : Turn (ChannelEvent μ)}
    (allowed : AfterCallback pool turn) (moved : (channelSystem μ).turn pool turn = some next) :
    Orderly next := by
  constructor
  · rcases ThreadSystem.turn_cases moved with
      ⟨number, thread, β, request, cont, answer, rfl, found, program, ran, threads⟩ |
      ⟨event, jobs, rfl, acted, threads⟩
    · -- the debt of one thread changes, and the others stay
      have member := List.mem_of_getElem? found
      have meets := orderly.threads thread member
      rw [program] at meets
      have owed := le_tally_of_mem
        (fun thread : Thread (ChannelCall μ) Bool Bool => (owesConnect thread.log).toNat) member
      have moved := tally_set_add
        (fun thread : Thread (ChannelCall μ) Bool Bool => (owesConnect thread.log).toNat) found
        (thread.answered request cont answer)
      rw [← threads, Thread.answered_log, owesConnect] at moved
      dsimp only at owed moved
      obtain ⟨others, before⟩ := Nat.exists_eq_add_of_le' owed
      have channel := orderly.channel
      rw [before] at channel
      have reported : pool.state.startsConnect request = true → pool.state.unreported = false := by
        intro starts
        refine allowed thread found ?_
        rw [program]
        exact starts
      have after := channel.exec meets.1 reported ran
      rw [show tally (fun thread => (owesConnect thread.log).toNat) next.threads =
        others + (obliges request answer).toNat by omega]
      exact after
    · rw [threads, tally_append, tally_started, Nat.add_zero]
      rcases channel_environment acted with ⟨moves, -⟩ | ⟨same, -⟩
      · exact orderly.channel.moves moves
      · rw [same]
        exact orderly.channel
  · refine ThreadSystem.turn_forall_threads orderly.threads ?_ ?_ moved
    · intro thread β request cont answer meets program
      rw [program] at meets
      exact meets.2 answer
    · intro event state jobs acted job listed
      exact connects_environment acted job listed

/-- **At most one connect attempt.** In every run whose threads start a connect only after the
callback of the last disconnection, no connect meets a connection or another attempt. -/
theorem connects_idle {limit : ℕ}
    (reached : (channelSystem μ).machine.Reach AfterCallback (freshChannel μ limit) pool) :
    pool.state.fatal = false ∧
      (pool.state.activity = .connectClient → pool.state.network = .idle) := by
  have orderly : Orderly pool :=
    reached.invariant Orderly (orderly_fresh limit) fun orderly allowed moved =>
      orderly.turn allowed moved
  refine ⟨orderly.channel.calm, fun runs => orderly.channel.starting ?_⟩
  rw [runs]
  rfl

/-- A message brings the connection up, and the connection goes down. -/
def lostConnection : List (Turn (ChannelEvent ℕ)) :=
  ThreadSystem.handling 0 3 (.enqueueOrSend 0 false) ++
    [.environment .runFunctor, .environment .proceed, .environment .proceed,
      .environment .establish] ++
    List.replicate 4 (.environment .proceed) ++ [.environment .close]

/-- The next message waits for the callback, and for the attempt that follows it. -/
theorem connects_idle_lostConnection :
    ∃ pool, (channelSystem ℕ).machine.Reach AfterCallback (freshChannel ℕ 5) pool ∧
      pool.state.network = .attempting ∧ pool.state.channel.pending = [1] ∧
      pool.state.fatal = false ∧
        (pool.state.activity = .connectClient → pool.state.network = .idle) := by
  have ran : ((channelSystem ℕ).machine.runWithin AfterCallback (freshChannel ℕ 5)
      (lostConnection ++ .environment .proceed ::
        ThreadSystem.handling 1 1 (.enqueueOrSend 1 false))).any (fun pool =>
          decide (pool.state.network = .attempting) && decide (pool.state.channel.pending = [1])) =
        true := by
    decide +kernel
  obtain ⟨pool, ran, found⟩ := (Option.any_eq_true _ _).mp ran
  obtain ⟨attempts, pending⟩ := Bool.and_eq_true_iff.mp found
  have reached := Machine.Reach.of_runWithin .refl ran
  exact ⟨pool, reached, of_decide_eq_true attempts, of_decide_eq_true pending,
    connects_idle reached⟩

/-- **The window.** The connection is down, and a producer that comes before its callback
starts a connect; the callback runs and the client tries again; the connect functor finds the
attempt in progress. -/
theorem connects_twice :
    ∃ pool, (channelSystem ℕ).machine.Reach Machine.anyStep (freshChannel ℕ 5) pool ∧
      pool.state.channel.closing = false ∧ pool.state.network = .attempting ∧
        pool.state.fatal = true := by
  have ran : ((channelSystem ℕ).machine.run (freshChannel ℕ 5)
      (lostConnection ++ ThreadSystem.handling 1 3 (.enqueueOrSend 1 false) ++
        [.environment .proceed, .environment .runFunctor, .environment .proceed,
          .environment .runFunctor, .environment .proceed, .environment .proceed])).any (fun pool =>
          decide (pool.state.channel.closing = false) &&
            decide (pool.state.network = .attempting) &&
            decide (pool.state.fatal = true)) = true := by
    decide +kernel
  obtain ⟨pool, ran, found⟩ := (Option.any_eq_true _ _).mp ran
  obtain ⟨⟨running, attempts⟩, fatal⟩ :=
    Bool.and_eq_true_iff.mp found |>.imp_left Bool.and_eq_true_iff.mp
  exact ⟨pool, .of_run .refl (fun _ _ => trivial) ran, of_decide_eq_true running,
    of_decide_eq_true attempts, of_decide_eq_true fatal⟩

end ClusterChat
