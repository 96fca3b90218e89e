/-
# The order of a thread's messages on a connection

Messages take three routes to a connection: a send posted to the loop, the queue of the
channel and the drain that empties it. A message goes into the queue only behind those
that are there, and a posted send waits behind those posted before it. What no flag
keeps apart are the two routes: a drain that runs before a posted send may write a
message that was queued after the send was posted.
-/

import ClusterChat.Channel.Custody
import ClusterChat.Channel.Links

namespace ClusterChat

namespace ChannelLoop

variable {μ : Type}

/-! ### Drains ahead of a posted send -/

/-- What a functor does to the flag of the channel, and whether it has drained. -/
def outlook : Bool × Bool → ChannelFunctor μ → Bool × Bool
  | (_, drained), .highWaterMark _ => (true, drained)
  | _, .writeComplete _ => (false, true)
  | (overloaded, drained), .drain => (overloaded, drained || !overloaded)
  | state, _ => state

/-- A drain is at work. -/
def draining (loop : ChannelLoop μ) : Bool :=
  match loop.activity with
  | .drainPendingInLoop => true
  | .drainSend _ _ => true
  | _ => false

/-- The flag of the channel, and whether a drain is at work and not held up. -/
def lookout (loop : ChannelLoop μ) : Bool × Bool :=
  (loop.channel.overloaded, loop.draining && !loop.channel.overloaded)

/-- The queue of the channel is drained before the functors in front have run. -/
def drainsBefore (loop : ChannelLoop μ) (front : List (ChannelFunctor μ)) : Bool :=
  (front.foldl outlook loop.lookout).2

/-- A send that is posted for the connection that is up. -/
def isLiveSend (loop : ChannelLoop μ) : ChannelFunctor μ → Bool
  | .send link _ => loop.network = .established link
  | _ => false

/-- No drain comes before a posted send. -/
def SendsFirst (loop : ChannelLoop μ) : Prop :=
  ∀ k < loop.functors.length, loop.functors[k]?.any loop.isLiveSend = true →
    loop.drainsBefore (loop.functors.take k) = false

/-- A message that is given to the channel goes into its queue. -/
def queues (loop : ChannelLoop μ) : Bool :=
  !loop.channel.closing && loop.channel.pending.length < loop.channel.pendingLimit &&
    (!loop.connected || loop.channel.overloaded || !loop.channel.pending.isEmpty)

variable {loop next : ChannelLoop μ}

theorem SendsFirst.split (sendsFirst : loop.SendsFirst) {link : ℕ} {message : μ}
    {front back : List (ChannelFunctor μ)}
    (functors : loop.functors = front ++ .send link message :: back)
    (up : loop.network = .established link) : loop.drainsBefore front = false := by
  have here : loop.functors[front.length]? = some (.send link message) := by
    rw [functors, List.getElem?_append_right (Nat.le_refl _), Nat.sub_self]
    rfl
  have bound : front.length < loop.functors.length := (List.getElem?_eq_some_iff.mp here).1
  have first := sendsFirst front.length bound
  rw [here, Option.any_some, functors, List.take_left] at first
  exact first (decide_eq_true up)

/-- A drain that was not held up stays one, whatever functors run. -/
theorem foldl_outlook_drained (overloaded : Bool) (front : List (ChannelFunctor μ)) :
    (front.foldl outlook (overloaded, true)).2 = true := by
  induction front generalizing overloaded with
  | nil => rfl
  | cons functor front ih => cases functor <;> exact ih _

/-- Without a drain at work less is drained. -/
theorem foldl_outlook_mono {overloaded drained : Bool} {front : List (ChannelFunctor μ)}
    (safe : (front.foldl outlook (overloaded, drained)).2 = false) :
    (front.foldl outlook (overloaded, false)).2 = false := by
  cases drained with
  | false => exact safe
  | true =>
    rw [foldl_outlook_drained] at safe
    cases safe

/-! ### Two messages in order -/

/-- The second message stays behind the first one, wherever the first one is. -/
structure InOrder (first second : μ) (loop : ChannelLoop μ) : Prop where
  written : ∀ link front back, loop.written = front ++ (link, first) :: back →
    (link, second) ∉ front
  queued : first ∈ loop.channel.pending →
    second ∉ loop.written.map Prod.snd ∧ (∀ link, loop.activity ≠ .drainSend link second) ∧
      ∀ link, .send link second ∉ loop.functors
  queuedOrder : ∀ front back, loop.channel.pending = front ++ first :: back → second ∉ front
  drained : ∀ link, loop.activity = .drainSend link first → second ∉ loop.written.map Prod.snd
  posted : ∀ link front back, loop.functors = front ++ .send link first :: back →
    loop.network = .established link →
    (link, second) ∉ loop.written ∧ (∀ other, loop.activity ≠ .drainSend other second) ∧
      (∀ other, .send other second ∉ front) ∧
      (second ∈ loop.channel.pending → loop.drainsBefore front = false)

/-- What is not among the items appended is among those before. -/
theorem split_of_append {α : Type*} {items extra front back : List α} {item : α}
    (parts : items ++ extra = front ++ item :: back) (other : item ∉ extra) :
    ∃ rest, items = front ++ item :: rest := by
  rcases List.append_eq_append_iff.mp parts with ⟨inner, whole, rest⟩ | ⟨inner, whole, rest⟩
  · have listed : item ∈ extra := by
      rw [rest]
      exact List.mem_append_right inner List.mem_cons_self
    exact absurd listed other
  · cases inner with
    | nil =>
      rw [List.nil_append] at rest
      exact absurd (rest ▸ List.mem_cons_self) other
    | cons head tail =>
      obtain ⟨rfl, -⟩ := List.cons.inj rest
      exact ⟨tail, whole⟩

variable {first second : μ}

/-- Functors put at the end of the queue. -/
theorem InOrder.extend (inOrder : InOrder first second loop) {extra : List (ChannelFunctor μ)}
    (pending : next.channel.pending = loop.channel.pending)
    (overloaded : next.channel.overloaded = loop.channel.overloaded)
    (activity : next.activity = loop.activity) (network : next.network = loop.network)
    (written : next.written = loop.written) (functors : next.functors = loop.functors ++ extra)
    (notFirst : ∀ link, .send link first ∉ extra)
    (notSecond : first ∈ loop.channel.pending → ∀ link, .send link second ∉ extra) :
    InOrder first second next := by
  have lookout : next.lookout = loop.lookout := by
    rw [ChannelLoop.lookout, ChannelLoop.lookout, draining, draining, overloaded, activity]
  refine ⟨?_, ?_, ?_, ?_, ?_⟩
  · rw [written]
    exact inOrder.written
  · rw [pending, written, activity, functors]
    intro waits
    obtain ⟨unwritten, undrained, unposted⟩ := inOrder.queued waits
    refine ⟨unwritten, undrained, fun link listed => ?_⟩
    rcases List.mem_append.mp listed with old | new
    · exact unposted link old
    · exact notSecond waits link new
  · rw [pending]
    exact inOrder.queuedOrder
  · rw [activity, written]
    exact inOrder.drained
  · intro link front back parts up
    rw [functors] at parts
    rw [network] at up
    -- what joined the queue is not the first message, so that one stands where it stood
    obtain ⟨rest, split⟩ := split_of_append parts (notFirst link)
    rw [written, activity, pending, drainsBefore, lookout]
    exact inOrder.posted link front rest split up

/-- The next functor runs, up to its first pause. -/
theorem InOrder.tail (inOrder : InOrder first second loop) {functor : ChannelFunctor μ}
    {rest : List (ChannelFunctor μ)} (functors : loop.functors = functor :: rest)
    (functors' : next.functors = rest) (pending : next.channel.pending = loop.channel.pending)
    (written : next.written = loop.written)
    (network : ∀ link, next.network = .established link → loop.network = .established link)
    (activity : ∀ link message, next.activity ≠ .drainSend link message)
    (lookout : next.lookout = outlook loop.lookout functor) : InOrder first second next := by
  refine ⟨?_, ?_, ?_, ?_, ?_⟩
  · rw [written]
    exact inOrder.written
  · rw [pending, written, functors']
    intro waits
    obtain ⟨unwritten, -, unposted⟩ := inOrder.queued waits
    refine ⟨unwritten, fun link => activity link second, fun link listed => unposted link ?_⟩
    rw [functors]
    exact List.mem_cons_of_mem functor listed
  · rw [pending]
    exact inOrder.queuedOrder
  · exact fun link runs => absurd runs (activity link first)
  · intro link front back parts up
    rw [functors'] at parts
    have split : loop.functors = (functor :: front) ++ .send link first :: back := by
      rw [functors, parts]
      rfl
    obtain ⟨unwritten, -, unposted, safe⟩ := inOrder.posted link _ _ split (network link up)
    rw [written, pending, drainsBefore, lookout]
    exact ⟨unwritten, fun other => activity other second,
      fun other listed => unposted other (List.mem_cons_of_mem functor listed), safe⟩

/-- The loop goes on without a message in hand, and the posted sends have no more drains
in front of them than before, or lose their connection. -/
theorem InOrder.calm (inOrder : InOrder first second loop)
    (pending : next.channel.pending = loop.channel.pending)
    (functors : next.functors = loop.functors) (written : next.written = loop.written)
    (activity : ∀ link message, next.activity ≠ .drainSend link message)
    (live : ∀ link, .send link first ∈ loop.functors → next.network = .established link →
      loop.network = .established link ∧ next.lookout.1 = loop.lookout.1 ∧
        (next.lookout.2 = true → loop.lookout.2 = true)) : InOrder first second next := by
  refine ⟨?_, ?_, ?_, ?_, ?_⟩
  · rw [written]
    exact inOrder.written
  · rw [pending, written, functors]
    intro waits
    obtain ⟨unwritten, -, unposted⟩ := inOrder.queued waits
    exact ⟨unwritten, fun link => activity link second, unposted⟩
  · rw [pending]
    exact inOrder.queuedOrder
  · exact fun link runs => absurd runs (activity link first)
  · intro link front back parts up
    rw [functors] at parts
    have listed : .send link first ∈ loop.functors := by
      rw [parts]
      exact List.mem_append_right front List.mem_cons_self
    obtain ⟨up', flag, fewer⟩ := live link listed up
    obtain ⟨unwritten, -, unposted, safe⟩ := inOrder.posted link front back parts up'
    rw [written, pending]
    refine ⟨unwritten, fun other => activity other second, unposted, fun waits => ?_⟩
    have before := safe waits
    rw [drainsBefore] at before ⊢
    -- an overloaded mark that was known before only makes fewer drains
    rw [show loop.lookout = (next.lookout.1, loop.lookout.2) from Prod.ext flag.symm rfl] at before
    cases drains : next.lookout.2 with
    | false =>
      rw [show next.lookout = (next.lookout.1, false) from Prod.ext rfl drains]
      exact foldl_outlook_mono before
    | true =>
      rw [fewer drains] at before
      rw [show next.lookout = (next.lookout.1, true) from Prod.ext rfl drains]
      exact before

/-- What a write adds to the record. -/
theorem write_written (loop : ChannelLoop μ) (link : ℕ) (message : μ) :
    (loop.write link message).written = loop.written ∨
      loop.network = .established link ∧
        (loop.write link message).written = loop.written ++ [(link, message)] := by
  unfold write
  by_cases up : loop.network = .established link
  · simp only [if_pos up]
    refine .inr ⟨up, ?_⟩
    split
    · split <;> rfl
    · split <;> rfl
  · rw [if_neg up]
    exact .inl rfl

/-- A message is written: the first one before the second, and the second one only where
the first is neither queued, nor in hand, nor posted. -/
theorem InOrder.write (inOrder : InOrder first second loop) (apart : first ≠ second) {link : ℕ}
    {message : μ}
    (isFirst : message = first → loop.network = .established link → (link, second) ∉ loop.written)
    (isSecond : message = second → first ∉ loop.channel.pending ∧
      (∀ other, loop.activity ≠ .drainSend other first) ∧
      (loop.network = .established link → .send link first ∉ loop.functors)) :
    InOrder first second (loop.write link message) := by
  obtain ⟨-, network, channel, callbacks, functors, silent⟩ := write_frame loop link message
  have activity := write_activity loop link message
  -- writing queues callbacks only, and those send nothing
  have lookout : (loop.write link message).lookout = loop.lookout := by
    rw [ChannelLoop.lookout, ChannelLoop.lookout, draining, draining, channel, activity]
  have quiet : ∀ other (sent : μ), .send other sent ∉ callbacks := by
    intro other sent listed
    cases silent _ listed
  rcases write_written loop link message with written | ⟨up, written⟩
  · exact inOrder.extend (congrArg _ channel) (congrArg _ channel) activity network written functors
      (fun other => quiet other first) (fun _ other => quiet other second)
  · -- the message is on the connection that is up
    have recorded {bytes : List (ℕ × μ)} :
      second ∈ (loop.written ++ [(link, message)]).map Prod.snd →
        second ∈ loop.written.map Prod.snd ∨ message = second := by
      intro listed
      rw [List.map_append, List.mem_append] at listed
      exact listed.imp (fun old => old) fun new => (List.mem_singleton.mp new).symm
    refine ⟨?_, ?_, ?_, ?_, ?_⟩
    · intro other front back parts
      rw [written] at parts
      -- either this is the write of the first message, or it was written before
      by_cases same : (other, first) = (link, message)
      · obtain ⟨rfl, rfl⟩ := Prod.mk.inj same
        have missing := isFirst rfl up
        intro listed
        have member : (other, second) ∈ loop.written ++ [(other, first)] := by
          rw [parts]
          exact List.mem_append_left _ listed
        rcases List.mem_append.mp member with old | new
        · exact missing old
        · exact apart (Prod.mk.inj (List.mem_singleton.mp new)).2.symm
      · obtain ⟨rest, split⟩ :=
          split_of_append parts fun listed => same (List.mem_singleton.mp listed)
        exact inOrder.written other front rest split
    · rw [channel, activity, functors, written]
      intro waits
      obtain ⟨unwritten, undrained, unposted⟩ := inOrder.queued waits
      refine ⟨?_, undrained, ?_⟩
      · rw [List.map_append, List.mem_append]
        rintro (old | new)
        · exact unwritten old
        · exact (isSecond (List.mem_singleton.mp new).symm).1 waits
      · intro other listed
        rcases List.mem_append.mp listed with old | new
        · exact unposted other old
        · exact quiet other second new
    · rw [channel]
      exact inOrder.queuedOrder
    · rw [activity, written]
      intro other runs
      rw [List.map_append, List.mem_append]
      rintro (old | new)
      · exact inOrder.drained other runs old
      · exact (isSecond (List.mem_singleton.mp new).symm).2.1 other runs
    · intro other front back parts up'
      rw [functors] at parts
      rw [network] at up'
      obtain ⟨rest, split⟩ := split_of_append parts (quiet other first)
      obtain ⟨unwritten, undrained, unposted, safe⟩ := inOrder.posted other front rest split up'
      rw [written, activity, channel, drainsBefore, lookout]
      refine ⟨?_, undrained, unposted, safe⟩
      rw [List.mem_append]
      rintro (old | new)
      · exact unwritten old
      · obtain ⟨rfl, same⟩ := Prod.mk.inj (List.mem_singleton.mp new)
        refine (isSecond same.symm).2.2 up ?_
        rw [split]
        exact List.mem_append_right front List.mem_cons_self

theorem connection_of_connected (connected : loop.connected = true) :
    ∃ link, loop.channel.connection = some link := by
  unfold ChannelLoop.connected at connected
  split at connected
  · cases connected
  · rename_i link known
    exact ⟨link, known⟩

/-- A message put into the channel's queue comes last in it. -/
theorem enqueue_pending (loop : ChannelLoop μ) (message : μ) :
    (loop.enqueue message).2.channel.pending = loop.channel.pending ∨
      loop.queues = true ∧
        (loop.enqueue message).2.channel.pending = loop.channel.pending ++ [message] := by
  unfold enqueue
  dsimp only
  split
  · exact .inl rfl
  · rename_i isOpen
    split
    · exact .inl rfl
    · rename_i notDirect
      split
      · exact .inl rfl
      · rename_i room
        -- a message is queued where it cannot be sent directly
        have queues : loop.queues = true := by
          have waits : loop.connected = false ∨ loop.channel.overloaded = true ∨
              loop.channel.pending ≠ [] := by
            by_contra direct
            simp only [not_or, Bool.not_eq_false, Bool.not_eq_true, ne_eq, not_not] at direct
            obtain ⟨connected, calm, empty⟩ := direct
            obtain ⟨link, known⟩ := connection_of_connected connected
            exact notDirect link connected calm empty known
          simp only [ChannelLoop.queues, Bool.and_eq_true, Bool.or_eq_true, Bool.not_eq_true',
            decide_eq_true_eq, List.isEmpty_eq_false_iff]
          refine ⟨⟨Bool.not_eq_true _ ▸ isOpen, Nat.not_le.mp room⟩, ?_⟩
          rcases waits with down | overloaded | backed
          · exact .inl (.inl down)
          · exact .inl (.inr overloaded)
          · exact .inr backed
        split <;> exact .inr ⟨queues, rfl⟩

/-- A message is sent at once only where none is queued. -/
theorem enqueue_direct_pending {message : μ} {link : ℕ}
    (direct : (loop.enqueue message).1 = .direct link) :
    (loop.enqueue message).2.channel.pending = [] := by
  unfold enqueue at direct ⊢
  dsimp only at direct ⊢
  split at direct
  · cases direct
  · rename_i isOpen
    rw [if_neg isOpen]
    split at direct
    · assumption
    · split at direct
      · cases direct
      · split at direct
        · cases direct
        · split at direct <;> cases direct

/-- A message is given to the channel: where the second one is queued no drain comes
before a posted send. -/
theorem InOrder.enqueue (inOrder : InOrder first second loop) {message : μ}
    (notFirst : message ≠ first)
    (behind : message = second → loop.queues = true → loop.SendsFirst) :
    InOrder first second (loop.enqueue message).2 := by
  obtain ⟨-, overloaded, functors, -, activity, network, written⟩ := enqueue_frame loop message
  rcases enqueue_pending loop message with pending | ⟨queues, pending⟩
  · exact inOrder.extend pending overloaded activity network written
      (functors.trans (List.append_nil _).symm) (fun _ => List.not_mem_nil) fun _ _ =>
        List.not_mem_nil
  · have lookout : (loop.enqueue message).2.lookout = loop.lookout := by
      rw [ChannelLoop.lookout, ChannelLoop.lookout, draining, draining, overloaded, activity]
    have kept : first ∈ (loop.enqueue message).2.channel.pending →
      first ∈ loop.channel.pending := by
      rw [pending]
      intro listed
      rcases List.mem_append.mp listed with old | new
      · exact old
      · exact absurd (List.mem_singleton.mp new).symm notFirst
    refine ⟨?_, ?_, ?_, ?_, ?_⟩
    · rw [written]
      exact inOrder.written
    · intro waits
      rw [written, activity, functors]
      exact inOrder.queued (kept waits)
    · rw [pending]
      intro front back parts
      obtain ⟨rest, split⟩ :=
        split_of_append parts fun listed => notFirst (List.mem_singleton.mp listed).symm
      exact inOrder.queuedOrder front rest split
    · rw [activity, written]
      exact inOrder.drained
    · intro link front back parts up
      rw [functors] at parts
      rw [network] at up
      obtain ⟨unwritten, undrained, unposted, safe⟩ := inOrder.posted link front back parts up
      rw [written, activity, pending, drainsBefore, lookout]
      refine ⟨unwritten, undrained, unposted, fun waits => ?_⟩
      -- where the second message is queued just now, its sender has seen to it
      rcases List.mem_append.mp waits with old | new
      · exact safe old
      · exact (behind (List.mem_singleton.mp new).symm queues).split parts up

/-- The queue of the channel is given up. -/
theorem InOrder.cleared (inOrder : InOrder first second loop)
    (pending : next.channel.pending = []) (functors : next.functors = loop.functors)
    (activity : next.activity = loop.activity) (network : next.network = loop.network)
    (written : next.written = loop.written) : InOrder first second next := by
  refine ⟨?_, ?_, ?_, ?_, ?_⟩
  · rw [written]
    exact inOrder.written
  · rw [pending]
    exact nofun
  · rw [pending]
    intro front back parts
    cases front <;> cases parts
  · rw [activity, written]
    exact inOrder.drained
  · intro link front back parts up
    rw [functors] at parts
    rw [network] at up
    obtain ⟨unwritten, undrained, unposted, -⟩ := inOrder.posted link front back parts up
    rw [written, activity, pending]
    exact ⟨unwritten, undrained, unposted, nofun⟩

theorem InOrder.startConnect (inOrder : InOrder first second loop) (idle : loop.activity = .idle) :
    InOrder first second loop.startConnect := by
  obtain ⟨-, overloaded, pending, functors, -, network, written, activity⟩ :=
    startConnect_frame loop
  have quiet : ∀ link message, loop.startConnect.activity ≠ .drainSend link message := by
    intro link message runs
    rcases activity with same | connects
    · rw [same, idle] at runs
      cases runs
    · rw [connects] at runs
      cases runs
  have still : loop.startConnect.draining = false := by
    unfold draining
    rcases activity with same | connects
    · rw [same, idle]
    · rw [connects]
  refine inOrder.calm pending functors written quiet fun link _ up => ⟨?_, overloaded, ?_⟩
  · rw [← network, up]
  · intro drains
    rw [ChannelLoop.lookout, still] at drains
    cases drains

/-- What a call may bring: not the first message, and the second one from outside of the
loop, queued or sent behind the first. -/
def Brings (first second : μ) (loop : ChannelLoop μ) (inLoop : Bool) :
    {β : Type} → ChannelCall μ β → Prop
  | _, .enqueue message =>
    message ≠ first ∧ (message = second → loop.queues = true → loop.SendsFirst)
  | _, .send _ message => message ≠ first ∧
      (message = second → inLoop = false ∧ first ∉ loop.channel.pending)
  | _, _ => True

/-- **A call keeps two messages in order.** -/
theorem InOrder.exec (inOrder : InOrder first second loop) (apart : first ≠ second) {inLoop : Bool}
    {β : Type} {request : ChannelCall μ β} {answer : β}
    (brings : Brings first second loop inLoop request)
    (ran : loop.exec inLoop request = some (answer, next)) : InOrder first second next := by
  -- a functor that carries no message comes behind all posted sends
  have queued (functor : ChannelFunctor μ) (silent : functorMessages functor = []) :
      InOrder first second (loop.queue functor) := by
    have other (link : ℕ) (message : μ) : .send link message ∉ [functor] := by
      intro listed
      rw [← List.mem_singleton.mp listed] at silent
      exact absurd silent (List.cons_ne_nil message [])
    refine inOrder.extend rfl rfl rfl rfl rfl rfl ?_ ?_
    · exact fun link => other link first
    · exact fun _ link => other link second
  cases request with
  | enqueue message =>
    obtain ⟨-, rfl⟩ := Prod.mk.inj (Option.some.inj ran)
    exact inOrder.enqueue brings.1 brings.2
  | send link message =>
    obtain ⟨notFirst, outside⟩ := brings
    simp only [ChannelLoop.exec] at ran
    split at ran
    · obtain ⟨-, rfl⟩ := Prod.mk.inj (Option.some.inj ran)
      cases inLoop with
      | true =>
        exact inOrder.write apart (fun same => absurd same notFirst)
          fun same => Bool.noConfusion (outside same).1
      | false =>
        refine inOrder.extend rfl rfl rfl rfl rfl rfl ?_ ?_
        · intro other listed
          exact notFirst (ChannelFunctor.send.inj (List.mem_singleton.mp listed)).2.symm
        · intro waits other listed
          have same := (ChannelFunctor.send.inj (List.mem_singleton.mp listed)).2.symm
          exact (outside same).2 waits
    · obtain ⟨-, rfl⟩ := Prod.mk.inj (Option.some.inj ran)
      exact inOrder.extend rfl rfl rfl rfl rfl (List.append_nil _).symm
        (fun _ => List.not_mem_nil) fun _ _ => List.not_mem_nil
  | warm =>
    simp only [ChannelLoop.exec] at ran
    split at ran
    · obtain ⟨-, rfl⟩ := Prod.mk.inj (Option.some.inj ran)
      exact inOrder.extend rfl rfl rfl rfl rfl (List.append_nil _).symm
        (fun _ => List.not_mem_nil) fun _ _ => List.not_mem_nil
    · obtain ⟨-, rfl⟩ := Prod.mk.inj (Option.some.inj ran)
      exact inOrder
  | runInLoop =>
    simp only [ChannelLoop.exec] at ran
    split at ran
    · split at ran
      · rename_i idle
        obtain ⟨-, rfl⟩ := Prod.mk.inj (Option.some.inj ran)
        exact inOrder.startConnect idle
      · cases ran
    · obtain ⟨-, rfl⟩ := Prod.mk.inj (Option.some.inj ran)
      exact queued .connect rfl
  | returned =>
    simp only [ChannelLoop.exec] at ran
    split at ran
    · obtain ⟨-, rfl⟩ := Prod.mk.inj (Option.some.inj ran)
      exact inOrder
    · obtain ⟨-, rfl⟩ := Prod.mk.inj (Option.some.inj ran)
      exact inOrder
    · cases ran
  | queueDrain =>
    obtain ⟨-, rfl⟩ := Prod.mk.inj (Option.some.inj ran)
    exact queued .drain rfl
  | stop =>
    obtain ⟨-, rfl⟩ := Prod.mk.inj (Option.some.inj ran)
    exact inOrder.cleared rfl rfl rfl rfl rfl
  | queueStop link =>
    obtain ⟨-, rfl⟩ := Prod.mk.inj (Option.some.inj ran)
    exact queued (.stop link) rfl

/-- The outlook of an idle loop is its flag. -/
theorem lookout_of_idle (idle : loop.activity = .idle) :
    loop.lookout = (loop.channel.overloaded, false) := by
  rw [lookout, draining, idle]
  rfl

/-- **A functor keeps two messages in order.** -/
theorem InOrder.runFunctor (inOrder : InOrder first second loop) (apart : first ≠ second)
    (ran : loop.runFunctor = some next) : InOrder first second next := by
  unfold ChannelLoop.runFunctor at ran
  split at ran
  · rename_i functor rest idle functors
    have quiet : ∀ link (message : μ), loop.activity ≠ .drainSend link message :=
      fun link message runs => nomatch idle.symm.trans runs
    have before := lookout_of_idle idle
    cases functor with
    | connect =>
      obtain rfl := Option.some.inj ran
      -- the functor leaves the queue before it runs
      have popped : InOrder first second { loop with functors := rest } :=
        inOrder.tail functors rfl rfl rfl (fun _ up => up) quiet rfl
      exact popped.startConnect idle
    | drain =>
      obtain rfl := Option.some.inj ran
      refine inOrder.tail functors rfl rfl rfl (fun _ up => up) nofun ?_
      rw [before, outlook, Bool.false_or]
      rfl
    | send link message =>
      obtain rfl := Option.some.inj ran
      have popped : InOrder first second { loop with functors := rest } :=
        inOrder.tail functors rfl rfl rfl (fun _ up => up) quiet rfl
      refine popped.write apart ?_ ?_
      · rintro rfl up
        exact (inOrder.posted link [] rest functors up).1
      · rintro rfl
        have listed : .send link message ∈ loop.functors := by
          rw [functors]
          exact List.mem_cons_self
        refine ⟨fun waits => (inOrder.queued waits).2.2 link listed, fun other =>
          quiet other first, ?_⟩
        -- the first message would stand behind the second one in the queue of functors
        intro up behind
        obtain ⟨front, back, parts⟩ := List.append_of_mem behind
        have split : loop.functors = (.send link message :: front) ++ .send link first :: back := by
          rw [functors]
          exact congrArg _ parts
        exact (inOrder.posted link _ back split up).2.2.1 link List.mem_cons_self
    | highWaterMark link =>
      obtain rfl := Option.some.inj ran
      refine inOrder.tail functors rfl rfl rfl (fun _ up => up) quiet ?_
      rw [before, outlook, lookout_of_idle]
      exact idle
    | writeComplete link =>
      obtain rfl := Option.some.inj ran
      refine inOrder.tail functors rfl rfl rfl (fun _ up => up) nofun ?_
      rw [before, outlook]
      rfl
    | stop link =>
      dsimp only at ran
      split at ran
      · obtain rfl := Option.some.inj ran
        refine inOrder.tail functors rfl rfl rfl nofun nofun ?_
        rw [before, outlook]
        · rfl
        · exact nofun
        · exact nofun
        · exact nofun
      · obtain rfl := Option.some.inj ran
        exact inOrder.tail functors rfl rfl rfl nofun quiet rfl
      · obtain rfl := Option.some.inj ran
        exact inOrder.tail functors rfl rfl rfl (fun _ up => up) quiet rfl
  · cases ran

/-- A message leaves the queue of the channel for the drain. -/
theorem InOrder.pop (inOrder : InOrder first second loop) (apart : first ≠ second) {link : ℕ}
    {message : μ} {rest : List μ} (drains : loop.activity = .drainPendingInLoop)
    (calm : loop.channel.overloaded = false) (pending : loop.channel.pending = message :: rest) :
    InOrder first second { loop with
      channel := { loop.channel with pending := rest }
      activity := .drainSend link message } := by
  have isFront : first ∈ rest → message ≠ second := by
    rintro listed rfl
    obtain ⟨front, back, parts⟩ := List.append_of_mem listed
    have split : loop.channel.pending = (message :: front) ++ first :: back := by
      rw [pending, parts]
      rfl
    exact inOrder.queuedOrder _ back split List.mem_cons_self
  have waits : first ∈ rest → first ∈ loop.channel.pending := by
    intro listed
    rw [pending]
    exact List.mem_cons_of_mem message listed
  have lookout : loop.lookout = (false, true) := by
    rw [ChannelLoop.lookout, draining, drains, calm]
    rfl
  refine ⟨inOrder.written, ?_, ?_, ?_, ?_⟩
  · intro listed
    obtain ⟨unwritten, -, unposted⟩ := inOrder.queued (waits listed)
    refine ⟨unwritten, fun other runs => isFront listed ?_, unposted⟩
    exact (ChannelActivity.drainSend.inj runs).2
  · intro front back parts listed
    have split : loop.channel.pending = (message :: front) ++ first :: back := by
      rw [pending]
      exact congrArg _ parts
    exact inOrder.queuedOrder _ back split (List.mem_cons_of_mem message listed)
  · intro other runs
    obtain ⟨-, rfl⟩ := ChannelActivity.drainSend.inj runs
    have here : message ∈ loop.channel.pending := by
      rw [pending]
      exact List.mem_cons_self
    exact (inOrder.queued here).1
  · intro other front back parts up
    obtain ⟨unwritten, -, unposted, safe⟩ := inOrder.posted other front back parts up
    -- a drain is at work: the second message is not in the queue
    have absent : second ∉ loop.channel.pending := by
      intro listed
      have before := safe listed
      rw [drainsBefore, lookout, foldl_outlook_drained] at before
      cases before
    rw [pending] at absent
    refine ⟨unwritten, fun other runs => ?_, unposted, fun listed => ?_⟩
    · obtain ⟨-, rfl⟩ := ChannelActivity.drainSend.inj runs
      exact absent List.mem_cons_self
    · exact absurd (List.mem_cons_of_mem message listed) absent

/-- **A callback that goes on keeps two messages in order.** -/
theorem InOrder.proceed (inOrder : InOrder first second loop) (apart : first ≠ second)
    (linked : loop.Linked) (ran : loop.proceed = some next) : InOrder first second next := by
  have notLive : ∀ {activity : ChannelActivity μ}, loop.activity = activity →
      (∀ other message, activity ≠ .drainSend other message) → activity ≠ .drainPendingInLoop →
      loop.lookout = (loop.channel.overloaded, false) := by
    intro activity runs noSend noDrain
    rw [lookout, draining, runs]
    cases activity with
    | drainPendingInLoop => exact absurd rfl noDrain
    | drainSend other message => exact absurd rfl (noSend other message)
    | _ => rfl
  unfold ChannelLoop.proceed at ran
  cases activity : loop.activity with
  | idle =>
    simp only [activity] at ran
    cases ran
  | handleConnection link =>
    simp only [activity] at ran
    split at ran
    · rename_i established
      obtain rfl := Option.some.inj ran
      refine inOrder.calm rfl rfl rfl nofun fun other listed up => ?_
      -- nothing can have been posted for a connection that is only now reported
      obtain rfl := Network.established.inj (established.symm.trans up)
      exact absurd ⟨activity, established⟩ (linked.posted link first listed).2
    · obtain rfl := Option.some.inj ran
      refine inOrder.calm rfl rfl rfl nofun fun other listed up => ?_
      dsimp only at up
      split at up <;> cases up
  | ensureClientInLoop =>
    simp only [activity] at ran
    obtain rfl := Option.some.inj ran
    exact inOrder.calm rfl rfl rfl nofun fun other listed up => ⟨up, rfl, nofun⟩
  | connectClient =>
    simp only [activity] at ran
    split at ran
    · obtain rfl := Option.some.inj ran
      exact inOrder.calm rfl rfl rfl nofun fun other listed up => ⟨up, rfl, nofun⟩
    · split at ran
      · obtain rfl := Option.some.inj ran
        exact inOrder.calm rfl rfl rfl nofun nofun
      · obtain rfl := Option.some.inj ran
        exact inOrder.calm rfl rfl rfl nofun fun other listed up => ⟨up, rfl, nofun⟩
  | drainPendingInLoop =>
    simp only [activity] at ran
    split at ran
    · obtain rfl := Option.some.inj ran
      exact inOrder.calm rfl rfl rfl nofun fun other listed up => ⟨up, rfl, nofun⟩
    · rename_i goes
      split at ran
      · rename_i message rest link pending connection
        obtain rfl := Option.some.inj ran
        have calm : loop.channel.overloaded = false := by
          simp only [Bool.or_eq_true, not_or, Bool.not_eq_true] at goes
          exact goes.1.2
        exact inOrder.pop apart activity calm pending
      · obtain rfl := Option.some.inj ran
        exact inOrder.calm rfl rfl rfl nofun fun other listed up => ⟨up, rfl, nofun⟩
  | drainSend link message =>
    simp only [activity] at ran
    obtain rfl := Option.some.inj ran
    have written : InOrder first second (loop.write link message) := by
      refine inOrder.write apart ?_ ?_
      · rintro rfl up listed
        exact inOrder.drained link activity (List.mem_map_of_mem listed)
      · rintro rfl
        refine ⟨fun waits => (inOrder.queued waits).2.1 link activity, fun other runs => ?_, ?_⟩
        · exact apart (ChannelActivity.drainSend.inj (activity.symm.trans runs)).2.symm
        · intro up listed
          obtain ⟨front, back, parts⟩ := List.append_of_mem listed
          exact (inOrder.posted link front back parts up).2.1 link activity
    refine written.calm rfl rfl rfl nofun fun other listed up => ⟨up, rfl, fun drains => ?_⟩
    rw [lookout, draining, write_activity, activity]
    exact drains

theorem InOrder.establish (inOrder : InOrder first second loop) (linked : loop.Linked)
    (ran : loop.establish = some next) : InOrder first second next := by
  unfold ChannelLoop.establish at ran
  split at ran
  · split at ran
    · cases ran
    · obtain rfl := Option.some.inj ran
      refine inOrder.calm rfl rfl rfl nofun fun link listed up => ?_
      -- the connection is a new one
      obtain rfl := Network.established.inj up
      exact absurd (linked.posted _ first listed).1 (Nat.lt_irrefl _)
  · cases ran

theorem InOrder.close (inOrder : InOrder first second loop) (ran : loop.close = some next) :
    InOrder first second next := by
  unfold ChannelLoop.close at ran
  split at ran
  · obtain rfl := Option.some.inj ran
    exact inOrder.calm rfl rfl rfl nofun nofun
  · cases ran

theorem InOrder.flush (inOrder : InOrder first second loop) (ran : loop.flush = some next) :
    InOrder first second next := by
  unfold ChannelLoop.flush at ran
  split at ran
  · rename_i link _ _ _
    obtain rfl := Option.some.inj ran
    refine inOrder.extend rfl rfl rfl rfl rfl rfl ?_ ?_
    · exact fun other listed => nomatch List.mem_singleton.mp listed
    · exact fun _ other listed => nomatch List.mem_singleton.mp listed
  · cases ran

/-! ### Messages that are nowhere yet -/

/-- The message is not in the channel, and was not written. -/
def Absent (message : μ) (loop : ChannelLoop μ) : Prop :=
  message ∉ loop.held ∧ message ∉ loop.written.map Prod.snd

/-- A message comes into the custody of a channel by a call only. -/
theorem not_mem_held {came went : List μ} (books : ∀ weight, Booked weight loop next came went)
    {message : μ} (absent : message ∉ loop.held) (other : message ∉ came) :
      message ∉ next.held := by
  classical
  let counts : μ → ℕ := fun item => if item = message then 1 else 0
  have none {items : List μ} (free : message ∉ items) : tally counts items = 0 := by
    induction items with
    | nil => rfl
    | cons item rest ih =>
      rw [List.mem_cons, not_or] at free
      rw [tally_cons, ih free.2, Nat.add_zero]
      exact if_neg (Ne.symm free.1)
  intro listed
  have held := (books counts).held
  have one : counts message ≤ tally counts next.held := le_tally_of_mem counts listed
  rw [none absent, none other] at held
  have self : counts message = 1 := if_pos rfl
  omega

/-- What is written was in custody, or is being sent. -/
theorem not_mem_write {message sent : μ} {link : ℕ} (absent : message ∉ loop.written.map Prod.snd)
    (other : sent ≠ message) : message ∉ (loop.write link sent).written.map Prod.snd := by
  rcases write_written loop link sent with same | ⟨-, more⟩
  · rwa [same]
  · rw [more, List.map_append, List.mem_append]
    rintro (old | new)
    · exact absent old
    · exact other (List.mem_singleton.mp new).symm

theorem Absent.exec {message : μ} (absent : Absent message loop) {inLoop : Bool} {β : Type}
    {request : ChannelCall μ β} {answer : β} (other : message ∉ cameByCall request answer)
    (ran : loop.exec inLoop request = some (answer, next)) : Absent message next := by
  -- the books say where messages come from; what is left is the record of what was written
  refine ⟨not_mem_held (fun weight => booked_exec ran) absent.1 other, ?_⟩
  cases request with
  | enqueue sent =>
    have written := (enqueue_frame loop sent).2.2.2.2.2.2
    obtain ⟨-, rfl⟩ := Prod.mk.inj (Option.some.inj ran)
    exact fun listed => absent.2 (written ▸ listed)
  | send link sent =>
    have differs : sent ≠ message := fun same => other (List.mem_singleton.mpr same.symm)
    simp only [ChannelLoop.exec] at ran
    split at ran
    · obtain ⟨-, rfl⟩ := Prod.mk.inj (Option.some.inj ran)
      cases inLoop with
      | true => exact not_mem_write absent.2 differs
      | false => exact absent.2
    · obtain ⟨-, rfl⟩ := Prod.mk.inj (Option.some.inj ran)
      exact absent.2
  | warm =>
    simp only [ChannelLoop.exec] at ran
    split at ran
    · obtain ⟨-, rfl⟩ := Prod.mk.inj (Option.some.inj ran)
      exact absent.2
    · obtain ⟨-, rfl⟩ := Prod.mk.inj (Option.some.inj ran)
      exact absent.2
  | runInLoop =>
    simp only [ChannelLoop.exec] at ran
    split at ran
    · split at ran
      · have written := (startConnect_frame loop).2.2.2.2.2.2.1
        obtain ⟨-, rfl⟩ := Prod.mk.inj (Option.some.inj ran)
        exact fun listed => absent.2 (written ▸ listed)
      · cases ran
    · obtain ⟨-, rfl⟩ := Prod.mk.inj (Option.some.inj ran)
      exact absent.2
  | returned =>
    simp only [ChannelLoop.exec] at ran
    split at ran
    · obtain ⟨-, rfl⟩ := Prod.mk.inj (Option.some.inj ran)
      exact absent.2
    · obtain ⟨-, rfl⟩ := Prod.mk.inj (Option.some.inj ran)
      exact absent.2
    · cases ran
  | queueDrain =>
    obtain ⟨-, rfl⟩ := Prod.mk.inj (Option.some.inj ran)
    exact absent.2
  | stop =>
    obtain ⟨-, rfl⟩ := Prod.mk.inj (Option.some.inj ran)
    exact absent.2
  | queueStop link =>
    obtain ⟨-, rfl⟩ := Prod.mk.inj (Option.some.inj ran)
    exact absent.2

theorem Absent.runFunctor {message : μ} (absent : Absent message loop)
    (ran : loop.runFunctor = some next) : Absent message next := by
  refine ⟨not_mem_held (fun weight => booked_runFunctor ran) absent.1 List.not_mem_nil, ?_⟩
  unfold ChannelLoop.runFunctor at ran
  split at ran
  · rename_i functor rest idle functors
    cases functor with
    | connect =>
      have written := (startConnect_frame { loop with functors := rest }).2.2.2.2.2.2.1
      obtain rfl := Option.some.inj ran
      exact fun listed => absent.2 (written ▸ listed)
    | send link sent =>
      obtain rfl := Option.some.inj ran
      have popped : message ∉ { loop with functors := rest }.written.map Prod.snd := absent.2
      refine not_mem_write popped ?_
      rintro rfl
      apply absent.1
      simp [held, functors, functorMessages]
    | stop link =>
      dsimp only at ran
      split at ran <;> obtain rfl := Option.some.inj ran <;> exact absent.2
    | _ =>
      obtain rfl := Option.some.inj ran
      exact absent.2
  · cases ran

theorem Absent.proceed {message : μ} (absent : Absent message loop)
    (ran : loop.proceed = some next) : Absent message next := by
  refine ⟨not_mem_held (fun weight => booked_proceed ran) absent.1 List.not_mem_nil, ?_⟩
  unfold ChannelLoop.proceed at ran
  cases activity : loop.activity with
  | idle =>
    simp only [activity] at ran
    cases ran
  | handleConnection link =>
    simp only [activity] at ran
    split at ran <;> obtain rfl := Option.some.inj ran <;> exact absent.2
  | ensureClientInLoop =>
    simp only [activity] at ran
    obtain rfl := Option.some.inj ran
    exact absent.2
  | connectClient =>
    simp only [activity] at ran
    split at ran
    · obtain rfl := Option.some.inj ran
      exact absent.2
    · split at ran <;> obtain rfl := Option.some.inj ran <;> exact absent.2
  | drainPendingInLoop =>
    simp only [activity] at ran
    split at ran
    · obtain rfl := Option.some.inj ran
      exact absent.2
    · split at ran <;> obtain rfl := Option.some.inj ran <;> exact absent.2
  | drainSend link sent =>
    simp only [activity] at ran
    obtain rfl := Option.some.inj ran
    refine not_mem_write absent.2 ?_
    rintro rfl
    apply absent.1
    simp [held, activity, activityMessages]

/-- Nothing is out of order with a message that is nowhere. -/
theorem InOrder.of_absent (absent : Absent second loop) : InOrder first second loop := by
  -- the second message is nowhere, so it is not in front of the first one
  have unwritten : ∀ link, (link, second) ∉ loop.written :=
    fun link listed => absent.2 (List.mem_map_of_mem listed)
  have undrained : ∀ link, loop.activity ≠ .drainSend link second := by
    intro link runs
    apply absent.1
    simp [held, runs, activityMessages]
  have unposted : ∀ link, .send link second ∉ loop.functors := by
    intro link listed
    apply absent.1
    simp only [held, List.mem_append, List.mem_flatMap]
    exact .inl (.inl (.inr ⟨_, listed, List.mem_singleton_self second⟩))
  have unqueued : second ∉ loop.channel.pending := by
    intro listed
    apply absent.1
    simp only [held, List.mem_append]
    exact .inl (.inl (.inl listed))
  refine ⟨?_, ?_, ?_, ?_, ?_⟩
  · intro link front back parts listed
    apply unwritten link
    rw [parts]
    exact List.mem_append_left _ listed
  · exact fun _ => ⟨absent.2, undrained, unposted⟩
  · intro front back parts listed
    apply unqueued
    rw [parts]
    exact List.mem_append_left _ listed
  · exact fun _ _ => absent.2
  · intro link front back parts _
    refine ⟨unwritten link, undrained, fun other listed => unposted other ?_, ?_⟩
    · rw [parts]
      exact List.mem_append_left _ listed
    · exact fun listed => absurd listed unqueued

end ChannelLoop

end ClusterChat
