/-
# A thread that sends one message after another

A thread that sends a second message has seen its first one accepted: it was queued in
the channel, or posted to the loop. Senders run on other loops than the channel's. Each
message is followed from the thread that gives it to the channel, through the places
where it waits, to the connection it is written on.
-/

import ClusterChat.Channel.Order

namespace ClusterChat

open ChannelLoop

variable {μ : Type}

/-! ### Who gives which message -/

/-- The message that a call gives to the channel. -/
def givenBy : {β : Type} → ChannelCall μ β → Option μ
  | _, .enqueue message => some message
  | _, .send _ _ => none
  | _, .warm => none
  | _, .runInLoop => none
  | _, .returned => none
  | _, .queueDrain => none
  | _, .stop => none
  | _, .queueStop _ => none

/-- The message that the next call of a program gives to the channel. -/
def nextGiven {ρ : Type} : Calls (ChannelCall μ) ρ → Option μ
  | .ret _ => none
  | .call request _ => givenBy request

/-- The connection that a thread was told to send a message on. -/
def toldToSend : {β : Type} → ChannelCall μ β → β → Option (ℕ × μ)
  | _, .enqueue message, .direct link => some (link, message)
  | _, _, _ => none

/-- The thread was started to send the message. -/
def Gives (thread : Thread (ChannelCall μ) Bool Bool) (message : μ) : Prop :=
  nextGiven thread.rest = some message ∨
    ∃ event ∈ thread.log, givenBy event.request = some message

instance [DecidableEq μ] (thread : Thread (ChannelCall μ) Bool Bool) (message : μ) :
    Decidable (Gives thread message) :=
  inferInstanceAs (Decidable (_ ∨ _))

/-- Messages are told apart: none is sent twice. -/
def SentOnce (pool : Pool (ChannelLoop μ) (ChannelCall μ) Bool Bool) :
    Turn (ChannelEvent μ) → Prop
  | .environment (.enqueueOrSend message _) => ∀ thread ∈ pool.threads, ¬Gives thread message
  | _ => True

/-- A thread that is not the loop's own puts a message into the queue of the channel only
while no drain comes before a send that is posted. -/
def QueuesBehind (pool : Pool (ChannelLoop μ) (ChannelCall μ) Bool Bool) :
    Turn (ChannelEvent μ) → Prop
  | .thread number =>
    ∀ thread ∈ pool.threads[number]?, thread.tag = false → (nextGiven thread.rest).isSome = true →
      pool.state.queues = true → pool.state.SendsFirst
  | .environment _ => True

instance [DecidableEq μ] (pool : Pool (ChannelLoop μ) (ChannelCall μ) Bool Bool)
    (turn : Turn (ChannelEvent μ)) : Decidable (SentOnce pool turn) := by
  unfold SentOnce
  split <;> infer_instance

instance (loop : ChannelLoop μ) : Decidable loop.SendsFirst :=
  inferInstanceAs (Decidable (∀ k < loop.functors.length, _ → _))

instance (pool : Pool (ChannelLoop μ) (ChannelCall μ) Bool Bool) (turn : Turn (ChannelEvent μ)) :
    Decidable (QueuesBehind pool turn) := by
  unfold QueuesBehind
  split <;> infer_instance

/-- A thread gives its message first, and sends it where it was told to. -/
def sendsGuard (log : List (Event (ChannelCall μ))) : {β : Type} → ChannelCall μ β → Prop
  | _, .enqueue _ => log = []
  | _, .send link message =>
    ∃ event, log = [event] ∧ toldToSend event.request event.answer = some (link, message)
  | _, _ => True

theorem enqueueOrSend_sends (message : μ) :
    (enqueueOrSend message).Meets sendsGuard (fun _ _ => True) [] := by
  refine ⟨rfl, fun reply => ?_⟩
  cases reply with
  | refused => trivial
  | direct link => exact ⟨⟨_, rfl, rfl⟩, fun _ => trivial⟩
  | queued => trivial
  | queuedConnect => exact ⟨trivial, fun _ => ⟨trivial, fun _ => trivial⟩⟩
  | queuedDrain => exact ⟨trivial, fun _ => trivial⟩

theorem prewarmChannel_sends :
    (do prewarmChannel; return true : Calls (ChannelCall μ) Bool).Meets sendsGuard
      (fun _ _ => True) [] := by
  refine ⟨trivial, fun shouldConnect => ?_⟩
  cases shouldConnect with
  | false => trivial
  | true => exact ⟨trivial, fun _ => ⟨trivial, fun _ => trivial⟩⟩

theorem stopChannel_sends :
    (do stopChannel; return true : Calls (ChannelCall μ) Bool).Meets sendsGuard
      (fun _ _ => True) [] :=
  ⟨trivial, fun _ => ⟨trivial, fun _ => trivial⟩⟩

/-- Whoever was told to send a message has given it. -/
theorem givenBy_of_told {β : Type} {request : ChannelCall μ β} {answer : β} {link : ℕ} {message : μ}
    (told : toldToSend request answer = some (link, message)) : givenBy request = some message := by
  unfold toldToSend at told
  split at told
  · obtain ⟨-, rfl⟩ := Prod.mk.inj (Option.some.inj told)
    rfl
  · cases told

variable {pool next : Pool (ChannelLoop μ) (ChannelCall μ) Bool Bool}
  {thread : Thread (ChannelCall μ) Bool Bool}

/-- A call that puts a message into the queue, or sends it, is one of the thread that
gives the message. -/
theorem gives_of_call (meets : thread.rest.Meets sendsGuard (fun _ _ => True) thread.log) {β : Type}
    {request : ChannelCall μ β} {cont : β → Calls (ChannelCall μ) Bool}
    (program : thread.rest = .call request cont) {answer : β} {message : μ}
    (came : message ∈ cameByCall request answer) :
    givenBy request = some message ∨
      ∃ event ∈ thread.log, givenBy event.request = some message := by
  rw [program, Calls.meets_call] at meets
  cases request with
  | enqueue sent =>
    simp only [cameByCall] at came
    split at came
    · rw [List.mem_singleton.mp came]
      exact .inl rfl
    · cases came
  | send link sent =>
    obtain ⟨event, log, told⟩ := meets.1
    rw [List.mem_singleton.mp came, log]
    exact .inr ⟨event, List.mem_singleton_self event, givenBy_of_told told⟩
  | _ => cases came

/-- A thread gives no other message than the one it began with. -/
theorem gives_of_answered (meets : thread.rest.Meets sendsGuard (fun _ _ => True) thread.log)
    {β : Type} {request : ChannelCall μ β} {cont : β → Calls (ChannelCall μ) Bool}
    (program : thread.rest = .call request cont) {answer : β} {message : μ}
    (gives : Gives (thread.answered request cont answer) message) : Gives thread message := by
  rw [program, Calls.meets_call] at meets
  rcases gives with upcoming | ⟨event, member, given⟩
  · have after := meets.2 answer
    rw [Thread.answered_rest] at upcoming
    cases later : cont answer with
    | ret value =>
      rw [later] at upcoming
      cases upcoming
    | call second rest =>
      rw [later] at upcoming after
      cases second with
      | enqueue sent => cases after.1
      | _ => cases upcoming
  · rcases List.mem_cons.mp member with rfl | old
    · refine .inl ?_
      rw [program]
      exact given
    · exact .inr ⟨event, old, given⟩

theorem gives_answered {β : Type} {request : ChannelCall μ β}
    {cont : β → Calls (ChannelCall μ) Bool} (program : thread.rest = .call request cont)
    {answer : β} {message : μ} (gives : Gives thread message) :
    Gives (thread.answered request cont answer) message := by
  rcases gives with upcoming | ⟨event, member, given⟩
  · rw [program] at upcoming
    exact .inr ⟨_, List.mem_cons_self, upcoming⟩
  · exact .inr ⟨event, List.mem_cons_of_mem _ member, given⟩

/-! ### The loop and the network -/

namespace ChannelLoop

/-- The loop, the client or the network takes a step of its own. -/
inductive Moves (loop next : ChannelLoop μ) : Prop
  | runFunctor (ran : loop.runFunctor = some next)
  | proceed (ran : loop.proceed = some next)
  | establish (ran : loop.establish = some next)
  | close (ran : loop.close = some next)
  | flush (ran : loop.flush = some next)
  | receive (message : μ) (ran : loop.receive = some (message, next))
  | socket (mood : Socket) (changed : next = { loop with socket := mood })

variable {loop after : ChannelLoop μ} {first second message : μ}

/-- What the other side receives was on the wire, and is so no more. -/
theorem receive_frame (ran : loop.receive = some (message, after)) :
    after = { loop with wire := loop.wire.tail } := by
  unfold ChannelLoop.receive at ran
  split at ran
  · cases ran
  · rename_i wire
    obtain ⟨-, rfl⟩ := Prod.mk.inj (Option.some.inj ran)
    rw [wire]
    rfl

theorem Linked.moves (linked : loop.Linked) (moves : loop.Moves after) :
    after.Linked ∧ Relinks loop after := by
  cases moves with
  | runFunctor ran => exact linked.runFunctor ran
  | proceed ran => exact linked.proceed ran
  | establish ran => exact linked.establish ran
  | close ran => exact linked.close ran
  | flush ran => exact linked.flush ran
  | receive message ran =>
    obtain rfl := receive_frame ran
    exact ⟨linked.still rfl rfl rfl rfl rfl, .same rfl rfl rfl⟩
  | socket mood changed =>
    subst changed
    exact ⟨linked.still rfl rfl rfl rfl rfl, .same rfl rfl rfl⟩

/-- **A step of the loop keeps two messages in order.** -/
theorem InOrder.moves (inOrder : InOrder first second loop) (apart : first ≠ second)
    (linked : loop.Linked) (moves : loop.Moves after) : InOrder first second after := by
  cases moves with
  | runFunctor ran => exact inOrder.runFunctor apart ran
  | proceed ran => exact inOrder.proceed apart linked ran
  | establish ran => exact inOrder.establish linked ran
  | close ran => exact inOrder.close ran
  | flush ran => exact inOrder.flush ran
  | receive message ran =>
    obtain rfl := receive_frame ran
    exact inOrder.extend rfl rfl rfl rfl rfl (List.append_nil _).symm
      (fun _ => List.not_mem_nil) fun _ _ => List.not_mem_nil
  | socket mood changed =>
    subst changed
    exact inOrder.extend rfl rfl rfl rfl rfl (List.append_nil _).symm
      (fun _ => List.not_mem_nil) fun _ _ => List.not_mem_nil

/-- The loop writes nothing that the channel does not hold. -/
theorem Absent.moves (absent : Absent message loop) (moves : loop.Moves after) :
    Absent message after := by
  cases moves with
  | runFunctor ran => exact absent.runFunctor ran
  | proceed ran => exact absent.proceed ran
  | establish ran =>
    refine ⟨not_mem_held (fun weight => booked_establish ran) absent.1 List.not_mem_nil, ?_⟩
    unfold ChannelLoop.establish at ran
    split at ran
    · split at ran
      · cases ran
      · obtain rfl := Option.some.inj ran
        exact absent.2
    · cases ran
  | close ran =>
    refine ⟨not_mem_held (fun weight => booked_close ran) absent.1 List.not_mem_nil, ?_⟩
    unfold ChannelLoop.close at ran
    split at ran
    · obtain rfl := Option.some.inj ran
      exact absent.2
    · cases ran
  | flush ran =>
    refine ⟨not_mem_held (fun weight => booked_flush ran) absent.1 List.not_mem_nil, ?_⟩
    unfold ChannelLoop.flush at ran
    split at ran
    · obtain rfl := Option.some.inj ran
      exact absent.2
    · cases ran
  | receive taken ran =>
    obtain rfl := receive_frame ran
    -- what is left on the wire was on it before
    refine ⟨fun listed => absent.1 ?_, absent.2⟩
    simp only [held, List.mem_append] at listed ⊢
    exact listed.imp_right List.mem_of_mem_tail
  | socket mood changed =>
    subst changed
    exact absent

/-- The loop puts nothing into the queue of the channel. -/
theorem pending_moves (moves : loop.Moves after) (waits : message ∈ after.channel.pending) :
    message ∈ loop.channel.pending := by
  cases moves with
  | runFunctor ran =>
    unfold ChannelLoop.runFunctor at ran
    split at ran
    · rename_i functor rest idle functors
      cases functor with
      | connect =>
        have pending := (startConnect_frame { loop with functors := rest }).2.2.1
        obtain rfl := Option.some.inj ran
        exact pending ▸ waits
      | send link sent =>
        have channel := (write_frame { loop with functors := rest } link sent).2.2.1
        obtain rfl := Option.some.inj ran
        exact congrArg ShardChannel.pending channel ▸ waits
      | stop link =>
        dsimp only at ran
        split at ran <;> obtain rfl := Option.some.inj ran <;> exact waits
      | _ =>
        obtain rfl := Option.some.inj ran
        exact waits
    · cases ran
  | proceed ran =>
    unfold ChannelLoop.proceed at ran
    cases activity : loop.activity with
    | idle =>
      simp only [activity] at ran
      cases ran
    | handleConnection link =>
      simp only [activity] at ran
      split at ran <;> obtain rfl := Option.some.inj ran <;> exact waits
    | ensureClientInLoop =>
      simp only [activity] at ran
      obtain rfl := Option.some.inj ran
      exact waits
    | connectClient =>
      simp only [activity] at ran
      split at ran
      · obtain rfl := Option.some.inj ran
        exact waits
      · split at ran <;> obtain rfl := Option.some.inj ran <;> exact waits
    | drainPendingInLoop =>
      simp only [activity] at ran
      split at ran
      · obtain rfl := Option.some.inj ran
        exact waits
      · split at ran
        · -- the drain takes the first message off the queue
          rename_i taken rest link pending connection
          obtain rfl := Option.some.inj ran
          rw [pending]
          exact List.mem_cons_of_mem taken waits
        · obtain rfl := Option.some.inj ran
          exact waits
    | drainSend link sent =>
      simp only [activity] at ran
      have channel := (write_frame loop link sent).2.2.1
      obtain rfl := Option.some.inj ran
      exact congrArg ShardChannel.pending channel ▸ waits
  | establish ran =>
    unfold ChannelLoop.establish at ran
    split at ran
    · split at ran
      · cases ran
      · obtain rfl := Option.some.inj ran
        exact waits
    · cases ran
  | close ran =>
    unfold ChannelLoop.close at ran
    split at ran
    · obtain rfl := Option.some.inj ran
      exact waits
    · cases ran
  | flush ran =>
    unfold ChannelLoop.flush at ran
    split at ran
    · obtain rfl := Option.some.inj ran
      exact waits
    · cases ran
  | receive taken ran =>
    obtain rfl := receive_frame ran
    exact waits
  | socket mood changed =>
    subst changed
    exact waits

end ChannelLoop

/-- What the environment does: it moves the loop, or starts one thread. -/
theorem channel_environment {event : ChannelEvent μ} {loop after : ChannelLoop μ}
    {jobs : List (Bool × Calls (ChannelCall μ) Bool)}
    (acted : (channelSystem μ).environment event loop = some (after, jobs)) :
    (loop.Moves after ∧ jobs = []) ∨ after = loop ∧
      ((∃ message inLoop, event = .enqueueOrSend message inLoop ∧
          jobs = [(inLoop, enqueueOrSend message)]) ∨
        ∃ job, jobs = [job] ∧ nextGiven job.2 = none ∧
          job.2.Meets sendsGuard (fun _ _ => True) []) := by
  -- the events of the loop and the network start no job
  have moved {step : Option (ChannelLoop μ)}
      (stepped : step.map (·, ([] : List (Bool × Calls (ChannelCall μ) Bool))) =
        some (after, jobs)) :
      step = some after ∧ jobs = [] := by
    obtain ⟨result, ran, same⟩ := Option.map_eq_some_iff.mp stepped
    obtain ⟨rfl, rfl⟩ := Prod.mk.inj same
    exact ⟨ran, rfl⟩
  cases event with
  | enqueueOrSend message inLoop =>
    obtain ⟨rfl, rfl⟩ := Prod.mk.inj (Option.some.inj acted)
    exact .inr ⟨rfl, .inl ⟨message, inLoop, rfl, rfl⟩⟩
  | prewarm inLoop =>
    obtain ⟨rfl, rfl⟩ := Prod.mk.inj (Option.some.inj acted)
    exact .inr ⟨rfl, .inr ⟨_, rfl, rfl, prewarmChannel_sends⟩⟩
  | stopChannel inLoop =>
    obtain ⟨rfl, rfl⟩ := Prod.mk.inj (Option.some.inj acted)
    exact .inr ⟨rfl, .inr ⟨_, rfl, rfl, stopChannel_sends⟩⟩
  | runFunctor => exact .inl ((moved acted).imp_left .runFunctor)
  | proceed => exact .inl ((moved acted).imp_left .proceed)
  | establish => exact .inl ((moved acted).imp_left .establish)
  | close => exact .inl ((moved acted).imp_left .close)
  | flush => exact .inl ((moved acted).imp_left .flush)
  | receive =>
    obtain ⟨⟨message, result⟩, ran, same⟩ := Option.map_eq_some_iff.mp acted
    obtain ⟨rfl, rfl⟩ := Prod.mk.inj same
    exact .inl ⟨.receive message ran, rfl⟩
  | socket mood =>
    obtain ⟨rfl, rfl⟩ := Prod.mk.inj (Option.some.inj acted)
    exact .inl ⟨.socket mood rfl, rfl⟩

/-! ### What is known of every pool -/

/-- What holds of the senders of a pool: each keeps to its contract and was told of a
published connection, no two give the same message, and a message that nobody has given
yet is nowhere. -/
structure Known (pool : Pool (ChannelLoop μ) (ChannelCall μ) Bool Bool) : Prop where
  meets : ∀ thread ∈ pool.threads,
    thread.rest.Meets sendsGuard (fun _ _ => True) thread.log
  linked : pool.state.Linked
  told : ∀ thread ∈ pool.threads, ∀ event ∈ thread.log, ∀ link message,
    toldToSend event.request event.answer = some (link, message) → pool.state.Published link
  distinct : ∀ (i j : ℕ) (one other : Thread (ChannelCall μ) Bool Bool) (message : μ),
    pool.threads[i]? = some one → pool.threads[j]? = some other →
      Gives one message → Gives other message → i = j
  sourced : ∀ message, (∀ thread ∈ pool.threads, ∀ event ∈ thread.log,
    givenBy event.request ≠ some message) → Absent message pool.state

/-- A thread that is about to send was told to. -/
theorem Known.send (known : Known pool) (member : thread ∈ pool.threads) {link : ℕ} {message : μ}
    {cont : Unit → Calls (ChannelCall μ) Bool}
    (program : thread.rest = .call (.send link message) cont) :
    pool.state.Published link ∧ Gives thread message := by
  have meets := known.meets thread member
  rw [program, Calls.meets_call] at meets
  obtain ⟨event, log, told⟩ := meets.1
  have here : event ∈ thread.log := by
    rw [log]
    exact List.mem_singleton_self event
  exact ⟨known.told thread member event here link message told,
    .inr ⟨event, here, givenBy_of_told told⟩⟩

/-- A thread's call keeps the connections published. -/
theorem Known.exec (known : Known pool) {number : ℕ} {β : Type} {request : ChannelCall μ β}
    {cont : β → Calls (ChannelCall μ) Bool} {answer : β}
    (found : pool.threads[number]? = some thread) (program : thread.rest = .call request cont)
    (ran : pool.state.exec thread.tag request = some (answer, next.state)) :
    next.state.Linked ∧ Relinks pool.state next.state := by
  refine known.linked.exec ?_ ran
  cases request with
  | send link message => exact (known.send (List.mem_of_getElem? found) program).1
  | _ => trivial

/-- A call tells of a connection only if it is published. -/
theorem published_of_told {loop after : ChannelLoop μ} (linked : loop.Linked) {inLoop : Bool}
    {β : Type} {request : ChannelCall μ β} {answer : β} {link : ℕ} {message : μ}
    (ran : loop.exec inLoop request = some (answer, after))
    (told : toldToSend request answer = some (link, message)) : loop.Published link := by
  unfold toldToSend at told
  split at told
  · obtain ⟨rfl, -⟩ := Prod.mk.inj (Option.some.inj told)
    exact enqueue_direct linked (congrArg Prod.fst (Option.some.inj ran))
  · cases told

theorem Known.call (known : Known pool) {number : ℕ} {β : Type} {request : ChannelCall μ β}
    {cont : β → Calls (ChannelCall μ) Bool} {answer : β}
    (found : pool.threads[number]? = some thread) (program : thread.rest = .call request cont)
    (ran : pool.state.exec thread.tag request = some (answer, next.state))
    (threads : next.threads = pool.threads.set number (thread.answered request cont answer)) :
    Known next := by
  have member := List.mem_of_getElem? found
  have meets := known.meets thread member
  -- the links that threads were told of stay known, whatever the call does to the channel
  obtain ⟨linked, relinks⟩ := known.exec found program ran
  have bound : number < pool.threads.length := (List.getElem?_eq_some_iff.mp found).1
  have here : thread.answered request cont answer ∈ next.threads := by
    rw [threads]
    exact List.mem_set bound _
  refine ⟨?_, linked, ?_, ?_, ?_⟩
  · intro other listed
    rw [threads] at listed
    rcases List.mem_or_eq_of_mem_set listed with old | rfl
    · exact known.meets other old
    · rw [program] at meets
      exact meets.2 answer
  · intro other listed event logged link message told
    rw [threads] at listed
    rcases List.mem_or_eq_of_mem_set listed with old | rfl
    · exact (known.told other old event logged link message told).relinks relinks
    · rcases List.mem_cons.mp logged with rfl | old
      · exact (published_of_told known.linked ran told).relinks relinks
      · exact (known.told thread member event old link message told).relinks relinks
  · -- what the threads give is what they gave before
    have before : ∀ (i : ℕ) (one : Thread (ChannelCall μ) Bool Bool) (message : μ),
        next.threads[i]? = some one → Gives one message →
        ∃ old, pool.threads[i]? = some old ∧ Gives old message := by
      intro i one message there gives
      rw [threads] at there
      rcases ThreadSystem.getElem?_set_cases there with ⟨rfl, rfl⟩ | ⟨-, there⟩
      · exact ⟨thread, found, gives_of_answered meets program gives⟩
      · exact ⟨one, there, gives⟩
    intro i j one other message there there' gives gives'
    obtain ⟨old, old_there, old_gives⟩ := before i one message there gives
    obtain ⟨old', old_there', old_gives'⟩ := before j other message there' gives'
    exact known.distinct i j old old' message old_there old_there' old_gives old_gives'
  · intro message ungiven
    -- a message that nobody gives after the call was not given by it, nor before it
    have fresh : givenBy request ≠ some message :=
      ungiven _ here ⟨request, answer⟩ List.mem_cons_self
    have own : ∀ event ∈ thread.log, givenBy event.request ≠ some message := by
      intro event logged
      exact ungiven _ here event (List.mem_cons_of_mem _ logged)
    have absent : Absent message pool.state := by
      refine known.sourced message fun other old event logged => ?_
      by_cases same : other = thread
      · subst same
        exact own event logged
      · apply ungiven other ?_ event logged
        rw [threads]
        exact ThreadSystem.mem_set_of_ne found _ old same
    refine absent.exec (fun came => ?_) ran
    -- what the call brings was given to it, or by an earlier call of the thread
    rcases gives_of_call meets program came with now | ⟨event, logged, given⟩
    · exact fresh now
    · exact own event logged given

theorem Known.environment (known : Known pool) {event : ChannelEvent μ}
    {jobs : List (Bool × Calls (ChannelCall μ) Bool)}
    (sentOnce : SentOnce pool (.environment event))
    (acted : (channelSystem μ).environment event pool.state = some (next.state, jobs))
    (threads : next.threads = pool.threads ++ jobs.map Thread.start) : Known next := by
  rcases channel_environment acted with ⟨moves, rfl⟩ | ⟨still, starts⟩
  · rw [List.map_nil, List.append_nil] at threads
    obtain ⟨linked, relinks⟩ := known.linked.moves moves
    refine ⟨threads ▸ known.meets, linked, ?_, threads ▸ known.distinct, ?_⟩
    · rw [threads]
      intro thread member event logged link message told
      exact (known.told thread member event logged link message told).relinks relinks
    · rw [threads]
      intro message ungiven
      exact (known.sourced message ungiven).moves moves
  · -- one thread starts, and gives a message nobody gives, or none
    have started : ∃ job, jobs = [job] ∧ job.2.Meets sendsGuard (fun _ _ => True) [] ∧
        ∀ message, nextGiven job.2 = some message →
          ∀ thread ∈ pool.threads, ¬Gives thread message := by
      rcases starts with ⟨message, inLoop, rfl, rfl⟩ | ⟨job, rfl, none, meets⟩
      · refine ⟨_, rfl, enqueueOrSend_sends message, fun other given => ?_⟩
        obtain rfl := Option.some.inj given
        exact sentOnce
      · refine ⟨job, rfl, meets, fun other given => ?_⟩
        cases none.symm.trans given
    obtain ⟨job, rfl, meets, unlike⟩ := started
    have members : ∀ thread ∈ next.threads, thread ∈ pool.threads ∨ thread = .start job := by
      intro thread member
      rw [threads] at member
      exact (List.mem_append.mp member).imp_right List.mem_singleton.mp
    refine ⟨?_, still ▸ known.linked, ?_, ?_, ?_⟩
    · intro thread member
      rcases members thread member with old | rfl
      · exact known.meets thread old
      · exact meets
    · intro thread member event logged link message told
      rcases members thread member with old | rfl
      · exact still ▸ known.told thread old event logged link message told
      · cases logged
    · have split : ∀ (i : ℕ) (one : Thread (ChannelCall μ) Bool Bool), next.threads[i]? = some one →
          pool.threads[i]? = some one ∨ i = pool.threads.length ∧ one = .start job := by
        intro i one there
        have bound := (List.getElem?_eq_some_iff.mp there).1
        rw [threads, List.length_append, List.map_singleton, List.length_singleton] at bound
        rw [threads, List.getElem?_append] at there
        split at there
        · exact .inl there
        · obtain rfl : i = pool.threads.length := by omega
          rw [Nat.sub_self] at there
          exact .inr ⟨rfl, (Option.some.inj there).symm⟩
      have gives_start : ∀ {message : μ}, Gives (.start job) message →
          nextGiven job.2 = some message := by
        rintro message (upcoming | ⟨event, logged, -⟩)
        · exact upcoming
        · cases logged
      intro i j one other message there there' gives gives'
      rcases split i one there with old | ⟨rfl, rfl⟩
      · rcases split j other there' with old' | ⟨rfl, rfl⟩
        · exact known.distinct i j one other message old old' gives gives'
        · exact absurd gives (unlike message (gives_start gives') one (List.mem_of_getElem? old))
      · rcases split j other there' with old' | ⟨rfl, rfl⟩
        · exact absurd gives' (unlike message (gives_start gives) other (List.mem_of_getElem? old'))
        · rfl
    · intro message ungiven
      rw [still]
      refine known.sourced message fun thread old => ungiven thread ?_
      rw [threads]
      exact List.mem_append_left _ old

theorem known_fresh (limit : ℕ) : Known (freshChannel μ limit) :=
  ⟨nofun, linked_create limit, nofun, nofun, fun _ _ => ⟨nofun, nofun⟩⟩

/-- **A turn keeps what is known.** -/
theorem Known.turn (known : Known pool) {turn : Turn (ChannelEvent μ)}
    (sentOnce : SentOnce pool turn)
    (moved : (channelSystem μ).turn pool turn = some next) : Known next := by
  rcases ThreadSystem.turn_cases moved with
    ⟨number, thread, β, request, cont, answer, rfl, found, program, ran, threads⟩ |
    ⟨event, jobs, rfl, acted, threads⟩
  · exact known.call found program ran threads
  · exact known.environment sentOnce acted threads

/-! ### Two messages of one thread -/

/-- The message is given, if at all, by a thread that is not the loop's own and started
after `base` threads had. -/
def Late (base : ℕ) (message : μ) (pool : Pool (ChannelLoop μ) (ChannelCall μ) Bool Bool) : Prop :=
  ∀ (j : ℕ) (thread : Thread (ChannelCall μ) Bool Bool), pool.threads[j]? = some thread →
    Gives thread message → base ≤ j ∧ thread.tag = false

/-- The first message was given by a thread that has returned; as long as the second one
comes late the two are in order, and the second is not about to be posted while the first
is still queued. -/
structure Ordered (base i : ℕ) (first second : μ)
    (pool : Pool (ChannelLoop μ) (ChannelCall μ) Bool Bool) : Prop where
  known : Known pool
  earlier : i < base
  done : ∃ thread value, pool.threads[i]? = some thread ∧ Gives thread first ∧
    thread.rest = .ret value
  order : Late base second pool → InOrder first second pool.state ∧
    ∀ thread ∈ pool.threads, ∀ link cont, thread.rest = .call (.send link second) cont →
      first ∉ pool.state.channel.pending

variable {base i : ℕ} {first second : μ}

/-- Threads that have not returned do not give the first message. -/
theorem Ordered.notFirst (ordered : Ordered base i first second pool) {number : ℕ} {β : Type}
    {request : ChannelCall μ β} {cont : β → Calls (ChannelCall μ) Bool}
    (found : pool.threads[number]? = some thread) (program : thread.rest = .call request cont)
    {message : μ} (gives : Gives thread message) : message ≠ first := by
  rintro rfl
  obtain ⟨sender, value, there, gives', returned⟩ := ordered.done
  obtain rfl := ordered.known.distinct number i thread sender message found there gives gives'
  obtain rfl := Option.some.inj (found.symm.trans there)
  cases program.symm.trans returned

/-- What comes late comes after the first message, and is another one. -/
theorem Ordered.apart (ordered : Ordered base i first second pool) (late : Late base second pool) :
    first ≠ second := by
  rintro rfl
  obtain ⟨sender, value, there, gives, -⟩ := ordered.done
  exact absurd (late i sender there gives).1 (Nat.not_le.mpr ordered.earlier)

/-- Only a thread that gives a message puts it into the queue of the channel. -/
theorem pending_exec {loop after : ChannelLoop μ} {inLoop : Bool} {β : Type}
    {request : ChannelCall μ β} {answer : β} {message : μ}
    (ran : loop.exec inLoop request = some (answer, after))
    (waits : message ∈ after.channel.pending) :
    message ∈ loop.channel.pending ∨ givenBy request = some message := by
  cases request with
  | enqueue sent =>
    have pending := enqueue_pending loop sent
    obtain ⟨-, rfl⟩ := Prod.mk.inj (Option.some.inj ran)
    rcases pending with same | ⟨-, more⟩
    · exact .inl (same ▸ waits)
    · rcases List.mem_append.mp (more ▸ waits) with old | new
      · exact .inl old
      · exact .inr (congrArg some (List.mem_singleton.mp new).symm)
  | send link sent =>
    simp only [ChannelLoop.exec] at ran
    split at ran
    · obtain ⟨-, rfl⟩ := Prod.mk.inj (Option.some.inj ran)
      cases inLoop with
      | true =>
        exact .inl (congrArg ShardChannel.pending (write_frame loop link sent).2.2.1 ▸ waits)
      | false => exact .inl waits
    · obtain ⟨-, rfl⟩ := Prod.mk.inj (Option.some.inj ran)
      exact .inl waits
  | warm =>
    simp only [ChannelLoop.exec] at ran
    split at ran <;> obtain ⟨-, rfl⟩ := Prod.mk.inj (Option.some.inj ran) <;> exact .inl waits
  | runInLoop =>
    simp only [ChannelLoop.exec] at ran
    split at ran
    · split at ran
      · have pending := (startConnect_frame loop).2.2.1
        obtain ⟨-, rfl⟩ := Prod.mk.inj (Option.some.inj ran)
        exact .inl (pending ▸ waits)
      · cases ran
    · obtain ⟨-, rfl⟩ := Prod.mk.inj (Option.some.inj ran)
      exact .inl waits
  | returned =>
    simp only [ChannelLoop.exec] at ran
    split at ran
    · obtain ⟨-, rfl⟩ := Prod.mk.inj (Option.some.inj ran)
      exact .inl waits
    · obtain ⟨-, rfl⟩ := Prod.mk.inj (Option.some.inj ran)
      exact .inl waits
    · cases ran
  | queueDrain =>
    obtain ⟨-, rfl⟩ := Prod.mk.inj (Option.some.inj ran)
    exact .inl waits
  | stop =>
    -- stopping empties the queue
    obtain ⟨-, rfl⟩ := Prod.mk.inj (Option.some.inj ran)
    cases waits
  | queueStop link =>
    obtain ⟨-, rfl⟩ := Prod.mk.inj (Option.some.inj ran)
    exact .inl waits

/-- A call by a thread of the pool keeps the two messages in order. -/
theorem Ordered.brings (ordered : Ordered base i first second pool) (late : Late base second pool)
    {number : ℕ} {β : Type} {request : ChannelCall μ β} {cont : β → Calls (ChannelCall μ) Bool}
    (behind : QueuesBehind pool (.thread number)) (found : pool.threads[number]? = some thread)
    (program : thread.rest = .call request cont) :
    Brings first second pool.state thread.tag request := by
  have member := List.mem_of_getElem? found
  cases request with
  | enqueue message =>
    have upcoming : nextGiven thread.rest = some message := by
      rw [program]
      rfl
    refine ⟨ordered.notFirst found program (.inl upcoming), ?_⟩
    rintro rfl queues
    have outside := (late number thread found (.inl upcoming)).2
    exact behind thread found outside (Option.isSome_of_mem upcoming) queues
  | send link message =>
    have gives := (ordered.known.send member program).2
    refine ⟨ordered.notFirst found program gives, ?_⟩
    rintro rfl
    exact ⟨(late number thread found gives).2,
      (ordered.order late).2 thread member link cont program⟩
  | _ => trivial

/-- Right after it was told to send the second message a thread finds none queued. -/
theorem pending_of_told {loop after : ChannelLoop μ} {inLoop : Bool} {β : Type}
    {request : ChannelCall μ β} {answer : β} {link : ℕ} {message : μ}
    (ran : loop.exec inLoop request = some (answer, after))
    (told : toldToSend request answer = some (link, message)) : after.channel.pending = [] := by
  unfold toldToSend at told
  split at told
  · have direct := congrArg Prod.fst (Option.some.inj ran)
    obtain ⟨-, rfl⟩ := Prod.mk.inj (Option.some.inj ran)
    exact enqueue_direct_pending direct
  · cases told

theorem Ordered.call (ordered : Ordered base i first second pool) {number : ℕ} {β : Type}
    {request : ChannelCall μ β} {cont : β → Calls (ChannelCall μ) Bool} {answer : β}
    (behind : QueuesBehind pool (.thread number)) (found : pool.threads[number]? = some thread)
    (program : thread.rest = .call request cont)
    (ran : pool.state.exec thread.tag request = some (answer, next.state))
    (threads : next.threads = pool.threads.set number (thread.answered request cont answer)) :
    Ordered base i first second next := by
  have known := ordered.known.call found program ran threads
  have member := List.mem_of_getElem? found
  refine ⟨known, ordered.earlier, ?_, fun lateNext => ?_⟩
  · obtain ⟨sender, value, there, gives, returned⟩ := ordered.done
    refine ⟨sender, value, ?_, gives, returned⟩
    -- the first sender has returned, so it is not the one that moves
    have other : number ≠ i := by
      rintro rfl
      obtain rfl := Option.some.inj (found.symm.trans there)
      cases program.symm.trans returned
    rw [threads, List.getElem?_set_ne other]
    exact there
  · have late : Late base second pool := by
      intro j one there gives
      by_cases same : number = j
      · subst same
        obtain rfl := Option.some.inj (found.symm.trans there)
        have bound := (List.getElem?_eq_some_iff.mp found).1
        have here : next.threads[number]? = some (thread.answered request cont answer) := by
          rw [threads]
          exact List.getElem?_set_self bound
        have answered := lateNext number _ here (gives_answered program gives)
        exact answered
      · refine lateNext j one ?_ gives
        rw [threads, List.getElem?_set_ne same]
        exact there
    -- before this turn the second message was no earlier either, so both orders held
    obtain ⟨inOrder, inHand⟩ := ordered.order late
    refine ⟨inOrder.exec (ordered.apart late) (ordered.brings late behind found program) ran, ?_⟩
    intro other listed link rest sends waits
    rw [threads] at listed
    rcases List.mem_or_eq_of_mem_set listed with old | rfl
    · rcases pending_exec ran waits with before | given
      · exact inHand other old link rest sends before
      · -- the first message would be given once more
        have upcoming : nextGiven thread.rest = some first := by
          rw [program]
          exact given
        exact ordered.notFirst found program (.inl upcoming) rfl
    · -- this thread has just been told to send the second message
      have meets := known.meets _ (by
        rw [threads]
        exact List.mem_set (List.getElem?_eq_some_iff.mp found).1 _)
      rw [sends, Calls.meets_call] at meets
      obtain ⟨event, log, told⟩ := meets.1
      obtain ⟨rfl, -⟩ := List.cons.inj log
      rw [pending_of_told ran told] at waits
      cases waits

theorem Ordered.environment (ordered : Ordered base i first second pool) {event : ChannelEvent μ}
    {jobs : List (Bool × Calls (ChannelCall μ) Bool)}
    (sentOnce : SentOnce pool (.environment event))
    (acted : (channelSystem μ).environment event pool.state = some (next.state, jobs))
    (threads : next.threads = pool.threads ++ jobs.map Thread.start) :
    Ordered base i first second next := by
  have kept : ∀ (j : ℕ) (one : Thread (ChannelCall μ) Bool Bool), pool.threads[j]? = some one →
      next.threads[j]? = some one := by
    intro j one there
    rw [threads]
    exact List.getElem?_append_left (List.getElem?_eq_some_iff.mp there).1 ▸ there
  refine ⟨ordered.known.environment sentOnce acted threads, ordered.earlier, ?_, fun lateNext => ?_⟩
  · obtain ⟨sender, value, there, gives, returned⟩ := ordered.done
    exact ⟨sender, value, kept i sender there, gives, returned⟩
  · have late : Late base second pool :=
      fun j one there gives => lateNext j one (kept j one there) gives
    obtain ⟨inOrder, inHand⟩ := ordered.order late
    -- a thread that starts has not been told to send yet
    have old : ∀ other ∈ next.threads, ∀ link cont,
        other.rest = .call (.send link second) cont → other ∈ pool.threads := by
      intro other listed link cont sends
      rw [threads, List.mem_append] at listed
      rcases listed with old | new
      · exact old
      · rcases channel_environment acted with ⟨-, rfl⟩ | ⟨-,
          ⟨message, inLoop, -, rfl⟩ | ⟨job, rfl, -, meets⟩⟩
        · cases new
        · obtain rfl := List.mem_singleton.mp new
          have none : some message = none := congrArg nextGiven sends
          cases none
        · obtain rfl := List.mem_singleton.mp new
          have program : job.2 = .call (.send link second) cont := sends
          rw [program, Calls.meets_call] at meets
          obtain ⟨event, log, -⟩ := meets.1
          cases log
    rcases channel_environment acted with ⟨moves, -⟩ | ⟨still, -⟩
    · refine ⟨inOrder.moves (ordered.apart late) ordered.known.linked moves, ?_⟩
      intro other listed link cont sends waits
      exact inHand other (old other listed link cont sends) link cont sends
        (pending_moves moves waits)
    · rw [still]
      exact ⟨inOrder, fun other listed link cont sends =>
        inHand other (old other listed link cont sends) link cont sends⟩

/-- **A turn keeps two messages of one thread in order.** -/
theorem Ordered.turn (ordered : Ordered base i first second pool) {turn : Turn (ChannelEvent μ)}
    (sentOnce : SentOnce pool turn) (behind : QueuesBehind pool turn)
    (moved : (channelSystem μ).turn pool turn = some next) : Ordered base i first second next := by
  rcases ThreadSystem.turn_cases moved with
    ⟨number, thread, β, request, cont, answer, rfl, found, program, ran, threads⟩ |
    ⟨event, jobs, rfl, acted, threads⟩
  · exact ordered.call behind found program ran threads
  · exact ordered.environment sentOnce acted threads

/-- **A thread's messages are written in the order it sent them**, as long as a message
goes into the queue of the channel only while no drain comes before a posted send: where
the first was accepted before the second was sent, it is written before the second on
every connection that both are written on. -/
theorem sends_in_order {limit i j : ℕ} {one other : Thread (ChannelCall μ) Bool Bool}
    {mid : Pool (ChannelLoop μ) (ChannelCall μ) Bool Bool}
    (before : (channelSystem μ).machine.Reach
      (fun pool turn => SentOnce pool turn ∧ QueuesBehind pool turn) (freshChannel μ limit) mid)
    (here : mid.threads[i]? = some one) (gives : Gives one first) (accepted : one.rest = .ret true)
    (after : (channelSystem μ).machine.Reach
      (fun pool turn => SentOnce pool turn ∧ QueuesBehind pool turn) mid pool)
    (there : pool.threads[j]? = some other) (later : mid.threads.length ≤ j)
    (outside : other.tag = false) (gives' : Gives other second) (link : ℕ)
    (front back : List (ℕ × μ)) (written : pool.state.written = front ++ (link, first) :: back) :
    (link, second) ∉ front := by
  have known : Known mid :=
    before.invariant Known (known_fresh limit) fun known allowed moved => known.turn allowed.1 moved
  have started : Ordered mid.threads.length i first second mid := by
    refine ⟨known, (List.getElem?_eq_some_iff.mp here).1, ⟨one, true, here, gives, accepted⟩, ?_⟩
    intro late
    have ungiven : ∀ thread ∈ mid.threads, ¬Gives thread second := by
      intro thread member gives
      obtain ⟨index, found⟩ := List.mem_iff_getElem?.mp member
      exact Nat.not_le.mpr (List.getElem?_eq_some_iff.mp found).1 (late index thread found gives).1
    refine ⟨.of_absent (known.sourced second fun thread member event logged given => ?_), ?_⟩
    · exact ungiven thread member (.inr ⟨event, logged, given⟩)
    · intro thread member link cont sends
      exact absurd (known.send member sends).2 (ungiven thread member)
  have ordered : Ordered mid.threads.length i first second pool :=
    after.invariant _ started fun ordered allowed moved => ordered.turn allowed.1 allowed.2 moved
  have late : Late mid.threads.length second pool := by
    intro index thread found gives
    obtain rfl := ordered.known.distinct index j thread other second found there gives gives'
    obtain rfl := Option.some.inj (found.symm.trans there)
    exact ⟨later, outside⟩
  exact (ordered.order late).1.written link front back written

/-- A message brings the connection up; another one crosses the high-water mark of the
connection on its way out. -/
def crossedMark : List (Turn (ChannelEvent ℕ)) :=
  ThreadSystem.handling 0 3 (.enqueueOrSend 0 false) ++
    [.environment .runFunctor, .environment .proceed, .environment .proceed,
      .environment .establish, .environment (.socket (.buffers true))] ++
    List.replicate 4 (.environment .proceed) ++ [.environment (.socket .takesAll)]

/-- One message is posted, and the next one waits until the mark is left behind. -/
theorem sends_in_order_crossedMark :
    ∃ pool, (channelSystem ℕ).machine.Reach
        (fun pool turn => SentOnce pool turn ∧ QueuesBehind pool turn) (freshChannel ℕ 5) pool ∧
      pool.state.written = [(0, 0), (0, 1), (0, 2)] ∧
      ∀ front back, pool.state.written = front ++ (0, 1) :: back → (0, 2) ∉ front := by
  have ran : (((channelSystem ℕ).machine.runWithin
      (fun pool turn => SentOnce pool turn ∧ QueuesBehind pool turn) (freshChannel ℕ 5)
      (crossedMark ++ ThreadSystem.handling 1 2 (.enqueueOrSend 1 false))).any fun mid =>
      ((mid.threads[1]?).any fun one =>
        decide (Gives one 1) && decide (one.rest.returned = some true)) &&
        decide (mid.threads.length = 2) &&
        (((channelSystem ℕ).machine.runWithin
          (fun pool turn => SentOnce pool turn ∧ QueuesBehind pool turn) mid
          (.environment .runFunctor :: ThreadSystem.handling 2 1 (.enqueueOrSend 2 false) ++
            [.environment .runFunctor, .environment .flush, .environment .runFunctor,
              .environment .proceed, .environment .proceed])).any fun pool =>
          ((pool.threads[2]?).any fun other =>
            decide (Gives other 2) && decide (other.tag = false)) &&
            decide (pool.state.written = [(0, 0), (0, 1), (0, 2)]))) = true := by
    decide +kernel
  obtain ⟨mid, ran, found⟩ := (Option.any_eq_true _ _).mp ran
  obtain ⟨⟨first, length⟩, rest⟩ :=
    Bool.and_eq_true_iff.mp found |>.imp_left Bool.and_eq_true_iff.mp
  obtain ⟨one, here, found⟩ := (Option.any_eq_true _ _).mp first
  obtain ⟨gives, returned⟩ := Bool.and_eq_true_iff.mp found
  obtain ⟨pool, ran', found⟩ := (Option.any_eq_true _ _).mp rest
  obtain ⟨second, written⟩ := Bool.and_eq_true_iff.mp found
  obtain ⟨other, there, found⟩ := (Option.any_eq_true _ _).mp second
  obtain ⟨gives', outside⟩ := Bool.and_eq_true_iff.mp found
  have before := Machine.Reach.of_runWithin .refl ran
  have after := Machine.Reach.of_runWithin .refl ran'
  have accepted := Calls.returned_eq_some.mp (of_decide_eq_true returned)
  refine ⟨pool, .of_runWithin before ran', of_decide_eq_true written, ?_⟩
  exact sends_in_order before here (of_decide_eq_true gives) accepted after there
    (Nat.le_of_eq (of_decide_eq_true length)) (of_decide_eq_true outside)
    (of_decide_eq_true gives') 0

/-- A message is posted behind the callback of a connection that has been written out,
and the next one is queued before it runs: the callback drains the second message before
the loop comes to the first. -/
theorem queued_overtakes_posted :
    ∃ mid pool one other, (channelSystem ℕ).machine.Reach SentOnce (freshChannel ℕ 5) mid ∧
      (channelSystem ℕ).machine.Reach SentOnce mid pool ∧
      mid.threads[1]? = some one ∧ Gives one 1 ∧ one.rest = .ret true ∧
      pool.threads[2]? = some other ∧ mid.threads.length = 2 ∧ other.tag = false ∧ Gives other 2 ∧
      other.rest = .ret true ∧ pool.state.written = [(0, 0), (0, 2), (0, 1)] := by
  have ran : (((channelSystem ℕ).machine.runWithin SentOnce (freshChannel ℕ 5)
      (crossedMark ++ .environment .flush ::
        ThreadSystem.handling 1 2 (.enqueueOrSend 1 false))).any fun mid =>
      ((mid.threads[1]?).any fun one =>
        decide (Gives one 1) && decide (one.rest.returned = some true)) &&
        decide (mid.threads.length = 2) &&
        (((channelSystem ℕ).machine.runWithin SentOnce mid
          (.environment .runFunctor :: ThreadSystem.handling 2 1 (.enqueueOrSend 2 false) ++
            [.environment .runFunctor, .environment .proceed, .environment .proceed,
              .environment .proceed, .environment .runFunctor])).any fun pool =>
          ((pool.threads[2]?).any fun other => decide (Gives other 2) &&
            decide (other.tag = false) &&
            decide (other.rest.returned = some true)) &&
            decide (pool.state.written = [(0, 0), (0, 2), (0, 1)]))) = true := by
    decide +kernel
  obtain ⟨mid, ran, found⟩ := (Option.any_eq_true _ _).mp ran
  obtain ⟨⟨first, length⟩, rest⟩ :=
    Bool.and_eq_true_iff.mp found |>.imp_left Bool.and_eq_true_iff.mp
  obtain ⟨one, here, found⟩ := (Option.any_eq_true _ _).mp first
  obtain ⟨gives, returned⟩ := Bool.and_eq_true_iff.mp found
  obtain ⟨pool, ran', found⟩ := (Option.any_eq_true _ _).mp rest
  obtain ⟨second, written⟩ := Bool.and_eq_true_iff.mp found
  obtain ⟨other, there, found⟩ := (Option.any_eq_true _ _).mp second
  obtain ⟨⟨gives', outside⟩, returned'⟩ :=
    Bool.and_eq_true_iff.mp found |>.imp_left Bool.and_eq_true_iff.mp
  refine ⟨mid, pool, one, other, .of_runWithin .refl ran, .of_runWithin .refl ran', here, ?_, ?_,
    there, ?_, ?_, ?_, ?_, ?_⟩
  · exact of_decide_eq_true gives
  · exact Calls.returned_eq_some.mp (of_decide_eq_true returned)
  · exact of_decide_eq_true length
  · exact of_decide_eq_true outside
  · exact of_decide_eq_true gives'
  · exact Calls.returned_eq_some.mp (of_decide_eq_true returned')
  · exact of_decide_eq_true written

end ClusterChat
