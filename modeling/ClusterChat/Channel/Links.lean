/-
# Connections and messages that a channel knows

Connections are numbered as they come up. A channel gets to know a connection by the
callback that reports it, and whoever wants to write on one has it from the channel. So
a connection that has just come up is known to nobody, and one that has gone down never
comes back under the same number. The messages in a channel are those it was given.
-/

import ClusterChat.Channel.ShardChannel

namespace ClusterChat

namespace ChannelLoop

variable {μ : Type} {loop next : ChannelLoop μ} {link : ℕ}

/-- The connection came up, and its callback has run. -/
def Published (loop : ChannelLoop μ) (link : ℕ) : Prop :=
  link < loop.links ∧
    ¬(loop.activity = .handleConnection link ∧ loop.network = .established link)

/-- The channel and its loop know published connections only. -/
structure Linked (loop : ChannelLoop μ) : Prop where
  connection : ∀ link, loop.channel.connection = some link → loop.Published link
  posted : ∀ link message, .send link message ∈ loop.functors → loop.Published link
  current : ∀ link, loop.activity = .handleConnection link → link < loop.links
  up : ∀ link, loop.network = .established link → link < loop.links

theorem linked_create (limit : ℕ) : (create limit : ChannelLoop μ).Linked :=
  ⟨nofun, nofun, nofun, nofun⟩

/-- A call sends on a published connection, if it sends. -/
def Knows (loop : ChannelLoop μ) : {β : Type} → ChannelCall μ β → Prop
  | _, .send link _ => loop.Published link
  | _, _ => True

/-- What a step does to the connections: it may report the newest one, and nothing comes
up a second time. -/
structure Relinks (loop next : ChannelLoop μ) : Prop where
  links : loop.links ≤ next.links
  fresh : ∀ link, next.activity = .handleConnection link → next.network = .established link →
    loop.links ≤ link ∨
      (loop.activity = .handleConnection link ∧ loop.network = .established link)

/-- Published connections stay published. -/
theorem Published.relinks (published : loop.Published link) (relinks : Relinks loop next) :
    next.Published link := by
  refine ⟨Nat.lt_of_lt_of_le published.1 relinks.links, ?_⟩
  rintro ⟨runs, up⟩
  rcases relinks.fresh link runs up with new | old
  · exact absurd published.1 (Nat.not_lt.mpr new)
  · exact published.2 old

/-- A step that neither runs another callback nor changes the network. -/
theorem Relinks.same (links : next.links = loop.links) (activity : next.activity = loop.activity)
    (network : next.network = loop.network) : Relinks loop next := by
  refine ⟨Nat.le_of_eq links.symm, fun link runs up => .inr ⟨?_, ?_⟩⟩
  · rw [← activity, runs]
  · rw [← network, up]

/-- A step after which no callback of a connection runs. -/
theorem Relinks.quiet (links : next.links = loop.links)
    (quiet : ∀ link, next.activity ≠ .handleConnection link) : Relinks loop next :=
  ⟨Nat.le_of_eq links.symm, fun link runs => absurd runs (quiet link)⟩

/-- A step after which no connection is up. -/
theorem Relinks.down (links : next.links = loop.links)
    (down : ∀ link, next.network ≠ .established link) : Relinks loop next :=
  ⟨Nat.le_of_eq links.symm, fun link _ up => absurd up (down link)⟩

/-- The connections known after a step were known before, or are published now. -/
theorem Linked.step (linked : loop.Linked) (relinks : Relinks loop next)
    (connection : ∀ link, next.channel.connection = some link →
      loop.channel.connection = some link ∨ next.Published link)
    (posted : ∀ link message, .send link message ∈ next.functors →
      .send link message ∈ loop.functors ∨ next.Published link)
    (current : ∀ link, next.activity = .handleConnection link → link < next.links)
    (up : ∀ link, next.network = .established link → link < next.links) :
    next.Linked := by
  refine ⟨fun link known => ?_, fun link message listed => ?_, current, up⟩
  · rcases connection link known with old | new
    · exact (linked.connection link old).relinks relinks
    · exact new
  · rcases posted link message listed with old | new
    · exact (linked.posted link message old).relinks relinks
    · exact new

/-- The queue of the loop has grown by something that sends nothing. -/
theorem Linked.queue (linked : loop.Linked) {functor : ChannelFunctor μ}
    (silent : ∀ link message, functor ≠ .send link message) : (loop.queue functor).Linked := by
  refine linked.step (.same rfl rfl rfl) (fun _ => .inl) ?_ linked.current linked.up
  intro link message listed
  rcases List.mem_append.mp listed with old | new
  · exact .inl old
  · exact absurd (List.mem_singleton.mp new).symm (silent link message)

/-- A write leaves callbacks, the network and the channel alone. -/
theorem write_frame (loop : ChannelLoop μ) (link : ℕ) (message : μ) :
    (loop.write link message).links = loop.links ∧
      (loop.write link message).network = loop.network ∧
      (loop.write link message).channel = loop.channel ∧
      ∃ callbacks, (loop.write link message).functors = loop.functors ++ callbacks ∧
        ∀ functor ∈ callbacks, isCallback functor = true := by
  have none : ∃ callbacks, loop.functors = loop.functors ++ callbacks ∧
      ∀ functor ∈ callbacks, isCallback functor = true :=
    ⟨[], (List.append_nil _).symm, List.forall_mem_nil _⟩
  have one (functor : ChannelFunctor μ) (callback : isCallback functor = true) :
      ∃ callbacks, loop.functors ++ [functor] = loop.functors ++ callbacks ∧
        ∀ functor ∈ callbacks, isCallback functor = true :=
    ⟨[functor], rfl, List.forall_mem_singleton.mpr callback⟩
  unfold write
  by_cases up : loop.network = .established link
  · simp only [if_pos up]
    split
    · split
      · exact ⟨rfl, rfl, rfl, none⟩
      · exact ⟨rfl, rfl, rfl, one _ rfl⟩
    · split
      · exact ⟨rfl, rfl, rfl, one _ rfl⟩
      · exact ⟨rfl, rfl, rfl, none⟩
  · rw [if_neg up]
    exact ⟨rfl, rfl, rfl, none⟩

theorem Linked.write (linked : loop.Linked) (link : ℕ) (message : μ) :
    (loop.write link message).Linked := by
  obtain ⟨links, network, channel, callbacks, functors, silent⟩ := write_frame loop link message
  have activity := write_activity loop link message
  apply linked.step (.same links activity network)
  · intro other known
    rw [channel] at known
    exact .inl known
  · intro other sent listed
    rw [functors] at listed
    rcases List.mem_append.mp listed with old | new
    · exact .inl old
    · cases silent _ new
  · intro other runs
    rw [links]
    exact linked.current other (activity.symm.trans runs)
  · intro other up
    rw [links]
    exact linked.up other (network.symm.trans up)

/-- A step that changes neither the connection, nor the queue, nor the callback. -/
theorem Linked.still (linked : loop.Linked)
    (connection : next.channel.connection = loop.channel.connection)
    (functors : next.functors = loop.functors) (links : next.links = loop.links)
    (activity : next.activity = loop.activity) (network : next.network = loop.network) :
    next.Linked := by
  apply linked.step (.same links activity network)
  · intro link known
    rw [connection] at known
    exact .inl known
  · intro link message listed
    rw [functors] at listed
    exact .inl listed
  · intro link runs
    rw [activity] at runs
    rw [links]
    exact linked.current link runs
  · intro link up
    rw [network] at up
    rw [links]
    exact linked.up link up

/-- Whoever is told to send at once is told a published connection. -/
theorem enqueue_direct {message : μ} (linked : loop.Linked)
    (direct : (loop.enqueue message).1 = .direct link) : loop.Published link := by
  unfold enqueue at direct
  dsimp only at direct
  split at direct
  · cases direct
  · split at direct
    · rename_i known
      obtain rfl := EnqueueReply.direct.inj direct
      exact linked.connection _ known
    · split at direct
      · cases direct
      · split at direct
        · cases direct
        · split at direct <;> cases direct

/-- A message put into the channel's queue changes nothing else but the flag. -/
theorem enqueue_frame (loop : ChannelLoop μ) (message : μ) :
    (loop.enqueue message).2.channel.connection = loop.channel.connection ∧
      (loop.enqueue message).2.channel.overloaded = loop.channel.overloaded ∧
      (loop.enqueue message).2.functors = loop.functors ∧
      (loop.enqueue message).2.links = loop.links ∧
      (loop.enqueue message).2.activity = loop.activity ∧
      (loop.enqueue message).2.network = loop.network ∧
      (loop.enqueue message).2.written = loop.written := by
  unfold enqueue
  dsimp only
  split
  · exact ⟨rfl, rfl, rfl, rfl, rfl, rfl, rfl⟩
  · split
    · exact ⟨rfl, rfl, rfl, rfl, rfl, rfl, rfl⟩
    · split
      · exact ⟨rfl, rfl, rfl, rfl, rfl, rfl, rfl⟩
      · split
        · exact ⟨rfl, rfl, rfl, rfl, rfl, rfl, rfl⟩
        · exact ⟨rfl, rfl, rfl, rfl, rfl, rfl, rfl⟩

theorem startConnect_frame (loop : ChannelLoop μ) :
    loop.startConnect.channel.connection = loop.channel.connection ∧
      loop.startConnect.channel.overloaded = loop.channel.overloaded ∧
      loop.startConnect.channel.pending = loop.channel.pending ∧
      loop.startConnect.functors = loop.functors ∧ loop.startConnect.links = loop.links ∧
      loop.startConnect.network = loop.network ∧ loop.startConnect.written = loop.written ∧
      (loop.startConnect.activity = loop.activity ∨
        loop.startConnect.activity = .ensureClientInLoop) := by
  unfold startConnect
  split
  · exact ⟨rfl, rfl, rfl, rfl, rfl, rfl, rfl, .inl rfl⟩
  · exact ⟨rfl, rfl, rfl, rfl, rfl, rfl, rfl, .inr rfl⟩

theorem Linked.startConnect (linked : loop.Linked) (idle : loop.activity = .idle) :
    loop.startConnect.Linked := by
  obtain ⟨connection, -, -, functors, links, network, -, activity⟩ := startConnect_frame loop
  have quiet : ∀ link, loop.startConnect.activity ≠ .handleConnection link := by
    intro link runs
    rcases activity with same | connects
    · rw [same, idle] at runs
      cases runs
    · rw [connects] at runs
      cases runs
  refine linked.step (.quiet links quiet) ?_ ?_ (fun link runs => absurd runs (quiet link)) ?_
  · intro link known
    rw [connection] at known
    exact .inl known
  · intro link message listed
    rw [functors] at listed
    exact .inl listed
  · intro link up
    rw [network] at up
    rw [links]
    exact linked.up link up

/-- **A call keeps to published connections**, if it sends on one. -/
theorem Linked.exec (linked : loop.Linked) {inLoop : Bool} {β : Type} {request : ChannelCall μ β}
    {answer : β} (knows : loop.Knows request)
    (ran : loop.exec inLoop request = some (answer, next)) :
    next.Linked ∧ Relinks loop next := by
  cases request with
  | enqueue message =>
    obtain ⟨-, rfl⟩ := Prod.mk.inj (Option.some.inj ran)
    obtain ⟨connection, -, functors, links, activity, network, -⟩ := enqueue_frame loop message
    exact ⟨linked.still connection functors links activity network, .same links activity network⟩
  | send link message =>
    -- a sender has read the connection from the channel, under its lock
    have published : loop.Published link := knows
    simp only [ChannelLoop.exec] at ran
    split at ran
    · obtain ⟨-, rfl⟩ := Prod.mk.inj (Option.some.inj ran)
      cases inLoop with
      | true =>
        -- in the loop thread the write is made at once
        obtain ⟨links, network, -, -⟩ := write_frame loop link message
        exact ⟨linked.write link message, .same links (write_activity loop link message) network⟩
      | false =>
        -- from another thread it is posted, on a link that has been published
        refine ⟨linked.step (.same rfl rfl rfl) (fun _ => .inl) ?_ linked.current linked.up,
          .same rfl rfl rfl⟩
        intro other sent listed
        rcases List.mem_append.mp listed with old | new
        · exact .inl old
        · cases List.mem_singleton.mp new
          exact .inr (published.relinks (.same rfl rfl rfl))
    · obtain ⟨-, rfl⟩ := Prod.mk.inj (Option.some.inj ran)
      exact ⟨linked.still rfl rfl rfl rfl rfl, .same rfl rfl rfl⟩
  | warm =>
    simp only [ChannelLoop.exec] at ran
    split at ran
    · obtain ⟨-, rfl⟩ := Prod.mk.inj (Option.some.inj ran)
      exact ⟨linked.still rfl rfl rfl rfl rfl, .same rfl rfl rfl⟩
    · obtain ⟨-, rfl⟩ := Prod.mk.inj (Option.some.inj ran)
      exact ⟨linked, .same rfl rfl rfl⟩
  | runInLoop =>
    simp only [ChannelLoop.exec] at ran
    split at ran
    · split at ran
      · rename_i idle
        obtain ⟨-, rfl⟩ := Prod.mk.inj (Option.some.inj ran)
        -- the loop was idle, so no callback is cut short by the attempt
        obtain ⟨-, -, -, -, links, -, -, activity⟩ := startConnect_frame loop
        refine ⟨linked.startConnect idle, .quiet links ?_⟩
        intro link runs
        rcases activity with same | connects
        · rw [same, idle] at runs
          cases runs
        · rw [connects] at runs
          cases runs
      · cases ran
    · obtain ⟨-, rfl⟩ := Prod.mk.inj (Option.some.inj ran)
      exact ⟨linked.queue nofun, .same rfl rfl rfl⟩
  | returned =>
    simp only [ChannelLoop.exec] at ran
    split at ran
    · obtain ⟨-, rfl⟩ := Prod.mk.inj (Option.some.inj ran)
      exact ⟨linked, .same rfl rfl rfl⟩
    · obtain ⟨-, rfl⟩ := Prod.mk.inj (Option.some.inj ran)
      exact ⟨linked, .same rfl rfl rfl⟩
    · cases ran
  | queueDrain =>
    obtain ⟨-, rfl⟩ := Prod.mk.inj (Option.some.inj ran)
    exact ⟨linked.queue nofun, .same rfl rfl rfl⟩
  | stop =>
    obtain ⟨-, rfl⟩ := Prod.mk.inj (Option.some.inj ran)
    exact ⟨linked.step (.same rfl rfl rfl) nofun (fun _ _ => .inl) linked.current linked.up,
      .same rfl rfl rfl⟩
  | queueStop link =>
    obtain ⟨-, rfl⟩ := Prod.mk.inj (Option.some.inj ran)
    exact ⟨linked.queue nofun, .same rfl rfl rfl⟩

/-- **A functor keeps to published connections.** -/
theorem Linked.runFunctor (linked : loop.Linked) (ran : loop.runFunctor = some next) :
    next.Linked ∧ Relinks loop next := by
  unfold ChannelLoop.runFunctor at ran
  split at ran
  · rename_i functor rest idle functors
    have tail : ∀ link message, .send link message ∈ rest → .send link message ∈ loop.functors := by
      intro link message listed
      rw [functors]
      exact List.mem_cons_of_mem functor listed
    have popped : { loop with functors := rest }.Linked :=
      linked.step (.same rfl rfl rfl) (fun _ => .inl) (fun link message => .inl ∘ tail link message)
        linked.current linked.up
    -- a callback that does not belong to a connection, or one that is down
    have begins : ∀ {next : ChannelLoop μ}, next.channel.connection = loop.channel.connection →
        next.functors = rest → next.links = loop.links →
        (∀ link, next.activity ≠ .handleConnection link) →
        (∀ link, next.network = .established link → loop.network = .established link) →
        next.Linked ∧ Relinks loop next := by
      intro next connection functors links quiet network
      refine ⟨linked.step (.quiet links quiet) ?_ ?_ (fun link runs => absurd runs (quiet link)) ?_,
        .quiet links quiet⟩
      · intro link known
        rw [connection] at known
        exact .inl known
      · intro link message listed
        rw [functors] at listed
        exact .inl (tail link message listed)
      · intro link up
        rw [links]
        exact linked.up link (network link up)
    cases functor with
    | connect =>
      obtain rfl := Option.some.inj ran
      obtain ⟨-, -, -, -, links, -, -, activity⟩ :=
        startConnect_frame { loop with functors := rest }
      refine ⟨popped.startConnect idle, .quiet links ?_⟩
      intro link runs
      rcases activity with same | connects
      · rw [same] at runs
        cases idle.symm.trans runs
      · rw [connects] at runs
        cases runs
    | drain =>
      obtain rfl := Option.some.inj ran
      exact begins rfl rfl rfl nofun fun _ up => up
    | send link message =>
      obtain rfl := Option.some.inj ran
      obtain ⟨links, network, -, -⟩ := write_frame { loop with functors := rest } link message
      exact ⟨popped.write link message,
        .same links (write_activity { loop with functors := rest } link message) network⟩
    | highWaterMark link =>
      obtain rfl := Option.some.inj ran
      exact begins rfl rfl rfl (fun link runs => nomatch idle.symm.trans runs) fun _ up => up
    | writeComplete link =>
      obtain rfl := Option.some.inj ran
      exact begins rfl rfl rfl nofun fun _ up => up
    | stop link =>
      dsimp only at ran
      split at ran
      · rename_i up established
        obtain rfl := Option.some.inj ran
        refine ⟨linked.step (.down rfl nofun) (fun _ => .inl)
          (fun link message => .inl ∘ tail link message) ?_ nofun, .down rfl nofun⟩
        intro other runs
        obtain rfl := ChannelActivity.handleConnection.inj runs
        exact linked.up up established
      · obtain rfl := Option.some.inj ran
        exact begins rfl rfl rfl (fun link runs => nomatch idle.symm.trans runs) nofun
      · obtain rfl := Option.some.inj ran
        exact begins rfl rfl rfl (fun link runs => nomatch idle.symm.trans runs) fun _ up => up
  · cases ran

/-- **A callback keeps to published connections**, and publishes the one it reports. -/
theorem Linked.proceed (linked : loop.Linked) (ran : loop.proceed = some next) :
    next.Linked ∧ Relinks loop next := by
  -- what follows is no callback of a connection
  have goesOn : ∀ {next : ChannelLoop μ},
      (∀ link, next.channel.connection = some link →
        loop.channel.connection = some link ∨ next.Published link) →
      next.functors = loop.functors → next.links = loop.links →
      (∀ link, next.activity ≠ .handleConnection link) →
      (∀ link, next.network = .established link → loop.network = .established link) →
      next.Linked ∧ Relinks loop next := by
    intro next connection functors links quiet network
    refine ⟨linked.step (.quiet links quiet) connection ?_
      (fun link runs => absurd runs (quiet link)) ?_, .quiet links quiet⟩
    · intro link message listed
      rw [functors] at listed
      exact .inl listed
    · intro link up
      rw [links]
      exact linked.up link (network link up)
  unfold ChannelLoop.proceed at ran
  cases activity : loop.activity with
  | idle =>
    simp only [activity] at ran
    cases ran
  | handleConnection link =>
    simp only [activity] at ran
    split at ran
    · rename_i established
      obtain rfl := Option.some.inj ran
      refine goesOn ?_ rfl rfl nofun fun _ up => up
      intro other known
      obtain rfl := Option.some.inj known
      exact .inr ⟨linked.up link established, fun runs => nomatch runs.1⟩
    · obtain rfl := Option.some.inj ran
      refine goesOn nofun rfl rfl nofun ?_
      intro other up
      dsimp only at up
      split at up <;> cases up
  | ensureClientInLoop =>
    simp only [activity] at ran
    obtain rfl := Option.some.inj ran
    exact goesOn (fun _ => .inl) rfl rfl nofun fun _ up => up
  | connectClient =>
    simp only [activity] at ran
    split at ran
    · obtain rfl := Option.some.inj ran
      exact goesOn (fun _ => .inl) rfl rfl nofun fun _ up => up
    · split at ran
      · obtain rfl := Option.some.inj ran
        exact goesOn (fun _ => .inl) rfl rfl nofun nofun
      · obtain rfl := Option.some.inj ran
        exact goesOn (fun _ => .inl) rfl rfl nofun fun _ up => up
  | drainPendingInLoop =>
    simp only [activity] at ran
    split at ran
    · obtain rfl := Option.some.inj ran
      exact goesOn (fun _ => .inl) rfl rfl nofun fun _ up => up
    · split at ran
      · obtain rfl := Option.some.inj ran
        exact goesOn (fun _ => .inl) rfl rfl nofun fun _ up => up
      · obtain rfl := Option.some.inj ran
        exact goesOn (fun _ => .inl) rfl rfl nofun fun _ up => up
  | drainSend link message =>
    simp only [activity] at ran
    obtain rfl := Option.some.inj ran
    have written := linked.write link message
    obtain ⟨links, -, -, -⟩ := write_frame loop link message
    refine ⟨⟨?_, ?_, nofun, written.up⟩, .quiet links nofun⟩
    · intro other known
      exact (written.connection other known).relinks (.quiet rfl nofun)
    · intro other sent listed
      exact (written.posted other sent listed).relinks (.quiet rfl nofun)

theorem Linked.establish (linked : loop.Linked) (ran : loop.establish = some next) :
    next.Linked ∧ Relinks loop next := by
  unfold ChannelLoop.establish at ran
  split at ran
  · split at ran
    · cases ran
    · obtain rfl := Option.some.inj ran
      have relinks : Relinks loop { loop with
          network := .established loop.links
          links := loop.links + 1
          activity := .handleConnection loop.links } := by
        refine ⟨Nat.le_succ _, fun link runs _ => .inl ?_⟩
        obtain rfl := ChannelActivity.handleConnection.inj runs
        exact Nat.le_refl _
      refine ⟨linked.step relinks (fun _ => .inl) (fun _ _ => .inl) ?_ ?_, relinks⟩
      · intro link runs
        obtain rfl := ChannelActivity.handleConnection.inj runs
        exact Nat.lt_succ_self _
      · intro link up
        obtain rfl := Network.established.inj up
        exact Nat.lt_succ_self _
  · cases ran

theorem Linked.close (linked : loop.Linked) (ran : loop.close = some next) :
    next.Linked ∧ Relinks loop next := by
  unfold ChannelLoop.close at ran
  split at ran
  · rename_i link idle established
    obtain rfl := Option.some.inj ran
    refine ⟨linked.step (.down rfl nofun) (fun _ => .inl) (fun _ _ => .inl) ?_ nofun,
      .down rfl nofun⟩
    intro other runs
    obtain rfl := ChannelActivity.handleConnection.inj runs
    exact linked.up link established
  · cases ran

theorem Linked.flush (linked : loop.Linked) (ran : loop.flush = some next) :
    next.Linked ∧ Relinks loop next := by
  unfold ChannelLoop.flush at ran
  split at ran
  · obtain rfl := Option.some.inj ran
    have calm : { loop with backlog := false }.Linked := linked.still rfl rfl rfl rfl rfl
    exact ⟨calm.queue nofun, .same rfl rfl rfl⟩
  · cases ran

end ChannelLoop

end ClusterChat
