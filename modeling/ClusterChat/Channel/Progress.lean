/-
# No message is stranded in a channel

While a channel is open and messages wait in it, something that will drain it is
on its way: an attempt to connect, or a drain, or a callback of the connection
that is up. Each branch of `enqueueOrSend` relies on a different one of these, and
the loop's callbacks pass the duty on from one to the next. The invariant says,
for each setting of the channel's flags, who has the duty.
-/

import ClusterChat.Channel.ShardChannel

namespace ClusterChat

variable {μ : Type}

/-! ### What threads promise -/

/-- After this call a connect functor is left to start. -/
def startsConnect : {β : Type} → ChannelCall μ β → β → Bool
  | _, .enqueue _, reply =>
    match reply with
    | .queuedConnect => true
    | _ => false
  | _, .warm, shouldConnect => shouldConnect
  | _, .send _ _, _ => false
  | _, .runInLoop, _ => false
  | _, .returned, _ => false
  | _, .queueDrain, _ => false
  | _, .stop, _ => false
  | _, .queueStop _, _ => false

/-- After this call the channel is closing. -/
def stopsChannel : {β : Type} → ChannelCall μ β → Bool
  | _, .stop => true
  | _, .enqueue _ => false
  | _, .warm => false
  | _, .send _ _ => false
  | _, .runInLoop => false
  | _, .returned => false
  | _, .queueDrain => false
  | _, .queueStop _ => false

/-- The thread has set `connecting` and is about to start the connect functor. -/
def Connecting : List (Event (ChannelCall μ)) → Bool
  | [] => false
  | event :: _ => startsConnect event.request event.answer

/-- The thread has marked the channel and is about to queue its stop. -/
def Stopping : List (Event (ChannelCall μ)) → Bool
  | [] => false
  | event :: _ => stopsChannel event.request

@[simp] theorem connecting_cons (event : Event (ChannelCall μ))
    (earlier : List (Event (ChannelCall μ))) :
    Connecting (event :: earlier) = startsConnect event.request event.answer := rfl

@[simp] theorem stopping_cons (event : Event (ChannelCall μ))
    (earlier : List (Event (ChannelCall μ))) :
    Stopping (event :: earlier) = stopsChannel event.request := rfl

/-- What a thread may call, and when. -/
def channelGuard (log : List (Event (ChannelCall μ))) : {β : Type} → ChannelCall μ β → Prop
  | _, .runInLoop => Connecting log = true
  | _, .queueStop _ => Connecting log = false ∧ Stopping log = true
  | _, .enqueue _ => Connecting log = false
  | _, .warm => Connecting log = false
  | _, .send _ _ => Connecting log = false
  | _, .returned => Connecting log = false
  | _, .queueDrain => Connecting log = false
  | _, .stop => Connecting log = false

/-- No thread returns with a connect functor left to start. -/
def channelPost (log : List (Event (ChannelCall μ))) (_ : Bool) : Prop := Connecting log = false

theorem enqueueOrSend_meets (message : μ) :
    (enqueueOrSend message).Meets channelGuard channelPost [] := by
  refine ⟨rfl, fun reply => ?_⟩
  cases reply with
  | refused => rfl
  | direct link => exact ⟨rfl, fun _ => rfl⟩
  | queued => rfl
  | queuedConnect => exact ⟨rfl, fun _ => ⟨rfl, fun _ => rfl⟩⟩
  | queuedDrain => exact ⟨rfl, fun _ => rfl⟩

theorem prewarmChannel_meets :
    (do prewarmChannel; return true : Calls (ChannelCall μ) Bool).Meets channelGuard channelPost
      [] := by
  refine ⟨rfl, fun shouldConnect => ?_⟩
  cases shouldConnect with
  | false => rfl
  | true => exact ⟨rfl, fun _ => ⟨rfl, fun _ => rfl⟩⟩

theorem stopChannel_meets :
    (do stopChannel; return true : Calls (ChannelCall μ) Bool).Meets channelGuard channelPost [] :=
  ⟨rfl, fun _ => ⟨⟨rfl, rfl⟩, fun _ => rfl⟩⟩

/-- Every thread of every pool reached keeps its promises. -/
theorem channel_meets {limit : ℕ} {pool : Pool (ChannelLoop μ) (ChannelCall μ) Bool Bool}
    (reached : (channelSystem μ).machine.Reach Machine.anyStep (freshChannel μ limit) pool) :
    ∀ thread ∈ pool.threads, thread.rest.Meets channelGuard channelPost thread.log := by
  refine ThreadSystem.reach_meets (fun _ => channelGuard) (fun _ => channelPost) ?_ ?_ reached
  · intro thread member
    cases member
  · intro event state state' jobs acted job listed
    -- an event of the loop or of the network starts no thread
    have noJobs : ∀ {step : Option (ChannelLoop μ)},
        step.map (·, ([] : List (Bool × Calls (ChannelCall μ) Bool))) = some (state', jobs) →
        job.2.Meets channelGuard channelPost [] := by
      intro step stepped
      obtain ⟨loop, -, same⟩ := Option.map_eq_some_iff.mp stepped
      cases same
      cases listed
    cases event with
    | enqueueOrSend message inLoop =>
      cases acted
      obtain rfl := List.mem_singleton.mp listed
      exact enqueueOrSend_meets message
    | prewarm inLoop =>
      cases acted
      obtain rfl := List.mem_singleton.mp listed
      exact prewarmChannel_meets
    | stopChannel inLoop =>
      cases acted
      obtain rfl := List.mem_singleton.mp listed
      exact stopChannel_meets
    | runFunctor => exact noJobs acted
    | proceed => exact noJobs acted
    | establish => exact noJobs acted
    | close => exact noJobs acted
    | flush => exact noJobs acted
    | receive =>
      obtain ⟨received, -, same⟩ := Option.map_eq_some_iff.mp acted
      cases same
      cases listed
    | socket mood =>
      cases acted
      cases listed

/-! ### Who has the duty -/

/-- Every crossing of the high-water mark in the queue is followed by a
write-complete callback there, or bytes are still to be written out. -/
def Covered (link : ℕ) (backlog : Bool) : List (ChannelFunctor μ) → Prop
  | [] => True
  | .highWaterMark other :: rest =>
    (other = link → backlog = true ∨ .writeComplete link ∈ rest) ∧ Covered link backlog rest
  | _ :: rest => Covered link backlog rest

theorem covered_of_backlog (link : ℕ) (functors : List (ChannelFunctor μ)) :
    Covered link true functors := by
  induction functors with
  | nil => trivial
  | cons functor rest ih => cases functor <;> simp [Covered, ih]

theorem Covered.append {link : ℕ} {backlog : Bool} {functors : List (ChannelFunctor μ)}
    (covered : Covered link backlog functors) {functor : ChannelFunctor μ}
    (plain : functor = .highWaterMark link → backlog = true) :
    Covered link backlog (functors ++ [functor]) := by
  induction functors with
  | nil => cases functor <;> simp_all [Covered]
  | cons first rest ih => cases first <;> grind [Covered]

theorem covered_writeComplete (link : ℕ) (functors : List (ChannelFunctor μ)) :
    Covered link false (functors ++ [.writeComplete link]) := by
  induction functors with
  | nil => trivial
  | cons first rest ih => cases first <;> simp [Covered, ih]

theorem Covered.tail {link : ℕ} {backlog : Bool} {functor : ChannelFunctor μ}
    {rest : List (ChannelFunctor μ)} (covered : Covered link backlog (functor :: rest)) :
    Covered link backlog rest := by
  cases functor <;> simp_all [Covered]

/-- The state of the network and of the loop's queue fit together. -/
structure Wired (loop : ChannelLoop μ) : Prop where
  noStop : ∀ link, .stop link ∉ loop.functors
  linked : ∀ link, loop.channel.connection = some link →
    loop.network = .established link ∨ loop.network = .closed link
  held : ∀ link, loop.network = .established link →
    loop.channel.connection = some link ∨ loop.activity = .handleConnection link
  closedRuns : ∀ link, loop.network = .closed link → loop.activity = .handleConnection link
  calledBack : ∀ link, loop.activity = .handleConnection link →
    loop.network = .established link ∨ loop.network = .closed link
  hasClient : loop.network ≠ .idle ∨ loop.activity = .connectClient → loop.client = true
  current : ∀ link other, loop.network = .established link →
    .highWaterMark other ∈ loop.functors ∨ .writeComplete other ∈ loop.functors → other = link
  covered : ∀ link, loop.network = .established link → Covered link loop.backlog loop.functors

/-- A connection is on its way. -/
def ConnectOutstanding (loop : ChannelLoop μ) (starting : Prop) : Prop :=
  starting ∨ .connect ∈ loop.functors ∨ loop.activity = .ensureClientInLoop ∨
    loop.activity = .connectClient ∨ loop.network = .attempting ∨
    ∃ link, loop.network = .established link ∧ loop.activity = .handleConnection link

/-- A drain is queued or at work. -/
def DrainOutstanding (loop : ChannelLoop μ) : Prop :=
  .drain ∈ loop.functors ∨ loop.activity = .drainPendingInLoop ∨
    ∃ link message, loop.activity = .drainSend link message

/-- Who has the duty to drain, for each setting of the flags. -/
structure Attended (loop : ChannelLoop μ) (starting : Prop) : Prop where
  asked : loop.channel.connection = none → loop.channel.connecting = true →
    ConnectOutstanding loop starting
  quiet : loop.channel.connection = none → loop.channel.connecting = false →
    loop.channel.pending = []
  draining : ∀ link, loop.channel.connection = some link → loop.network = .established link →
    loop.channel.overloaded = false → loop.channel.pending ≠ [] → DrainOutstanding loop
  buffered : ∀ link, loop.channel.connection = some link → loop.network = .established link →
    loop.channel.overloaded = true → loop.backlog = true ∨ .writeComplete link ∈ loop.functors

/-- The queue keeps to its limit. -/
def Bounded (loop : ChannelLoop μ) : Prop :=
  loop.channel.pending.length ≤ loop.channel.pendingLimit

/-- The duties as one statement. -/
def Kept (loop : ChannelLoop μ) (starting : Prop) : Prop := Wired loop ∧ Attended loop starting

theorem kept_create (limit : ℕ) : Kept (.create limit : ChannelLoop μ) False := by
  constructor <;> constructor <;> simp [ChannelLoop.create]

variable {loop next : ChannelLoop μ} {starting starting' : Prop}

/-- A thread that starts a connect functor only adds to what is on its way. -/
theorem Kept.mono (kept : Kept loop starting) (implies : starting → starting') :
    Kept loop starting' := by
  obtain ⟨wired, attended⟩ := kept
  refine ⟨wired, { attended with asked := fun none asked => ?_ }⟩
  rcases attended.asked none asked with starts | other
  · exact .inl (implies starts)
  · exact .inr other

/-- Queueing a functor that is no callback of the connection. -/
theorem Kept.queue (kept : Kept loop starting) (functor : ChannelFunctor μ)
    (plain : ChannelLoop.isCallback functor = false) (noStop : ∀ link, functor ≠ .stop link) :
    Kept (loop.queue functor) starting := by
  obtain ⟨wired, attended⟩ := kept
  constructor <;> constructor <;> grind [ChannelLoop.queue, Covered.append, Wired, Attended,
    ChannelLoop.isCallback, ConnectOutstanding, DrainOutstanding]

/-- Writing on a connection leaves the flags alone. -/
theorem Kept.write (kept : Kept loop starting) (link : ℕ) (message : μ) :
    Kept (loop.write link message) starting := by
  obtain ⟨wired, attended⟩ := kept
  constructor <;> constructor <;>
    grind [ChannelLoop.write, ChannelLoop.queue, Covered.append, covered_of_backlog, Wired,
      Attended, ConnectOutstanding, DrainOutstanding]

theorem Kept.enqueue (kept : Kept loop starting) (message : μ) :
    Kept (loop.enqueue message).2
      (starting ∨ startsConnect (.enqueue message) (loop.enqueue message).1 = true) := by
  obtain ⟨wired, attended⟩ := kept
  constructor <;> constructor <;>
    grind [ChannelLoop.enqueue, ChannelLoop.connected, Wired, Attended, ConnectOutstanding,
      DrainOutstanding, startsConnect]

theorem Kept.startConnect (kept : Kept loop starting) (idle : loop.activity = .idle)
    (isOpen : loop.channel.closing = false) : Kept loop.startConnect starting' := by
  obtain ⟨wired, attended⟩ := kept
  constructor <;> constructor <;>
    grind [ChannelLoop.startConnect, ChannelLoop.connected, Wired, Attended, ConnectOutstanding,
      DrainOutstanding]

/-- The callback of a connection: it came up or it went down. -/
theorem Kept.handleConnection (kept : Kept loop starting) (isOpen : loop.channel.closing = false)
    {link : ℕ} (here : loop.activity = .handleConnection link) (ran : loop.proceed = some next) :
    Kept next starting := by
  obtain ⟨wired, attended⟩ := kept
  simp only [ChannelLoop.proceed, here] at ran
  by_cases up : loop.network = .established link
  · rw [if_pos up] at ran
    cases ran
    constructor <;> constructor <;>
      grind [Wired, Attended, ConnectOutstanding, DrainOutstanding]
  · rw [if_neg up] at ran
    cases ran
    constructor <;> constructor <;>
      grind [Wired, Attended, ConnectOutstanding, DrainOutstanding]

/-- The connect functor behind its locked section. -/
theorem Kept.connectClient (kept : Kept loop starting) (isOpen : loop.channel.closing = false)
    (here : loop.activity = .ensureClientInLoop ∨ loop.activity = .connectClient)
    (ran : loop.proceed = some next) : Kept next starting := by
  obtain ⟨wired, attended⟩ := kept
  rcases here with here | here
  · simp only [ChannelLoop.proceed, here] at ran
    cases ran
    constructor <;> constructor <;>
      grind [Wired, Attended, ConnectOutstanding, DrainOutstanding]
  · have client := wired.hasClient (.inr here)
    simp only [ChannelLoop.proceed, here, client] at ran
    cases network : loop.network <;> constructor <;> constructor <;>
      grind [Wired, Attended, ConnectOutstanding, DrainOutstanding]

/-- One turn of a drain. -/
theorem Kept.drain (kept : Kept loop starting) (isOpen : loop.channel.closing = false)
    (here : loop.activity = .drainPendingInLoop) (ran : loop.proceed = some next) :
    Kept next starting := by
  obtain ⟨wired, attended⟩ := kept
  simp only [ChannelLoop.proceed, here, isOpen, Bool.false_or] at ran
  by_cases blocked : (loop.channel.overloaded || !loop.connected) = true
  · rw [if_pos blocked] at ran
    cases ran
    constructor <;> constructor <;>
      grind [ChannelLoop.connected, Wired, Attended, ConnectOutstanding, DrainOutstanding]
  · rw [if_neg blocked] at ran
    cases waiting : loop.channel.pending <;> cases linked : loop.channel.connection <;>
      simp only [waiting, linked, Option.some.injEq] at ran <;> subst ran <;>
      constructor <;> constructor <;>
      grind [Wired, Attended, ConnectOutstanding, DrainOutstanding]

theorem Kept.proceed (kept : Kept loop starting) (isOpen : loop.channel.closing = false)
    (ran : loop.proceed = some next) : Kept next starting := by
  cases here : loop.activity with
  | idle => simp [ChannelLoop.proceed, here] at ran
  | handleConnection link => exact kept.handleConnection isOpen here ran
  | ensureClientInLoop => exact kept.connectClient isOpen (.inl here) ran
  | connectClient => exact kept.connectClient isOpen (.inr here) ran
  | drainPendingInLoop => exact kept.drain isOpen here ran
  | drainSend link message =>
    simp only [ChannelLoop.proceed, here] at ran
    cases ran
    obtain ⟨wired, attended⟩ := kept.write link message
    have sending : (loop.write link message).activity = .drainSend link message := by
      rw [ChannelLoop.write_activity, here]
    constructor <;> constructor <;>
      grind [Wired, Attended, ConnectOutstanding, DrainOutstanding]

/-- Taking a functor off the queue keeps the wiring. -/
theorem Wired.tail (wired : Wired loop) {functor : ChannelFunctor μ}
    {rest : List (ChannelFunctor μ)} (queued : loop.functors = functor :: rest) :
    Wired { loop with functors := rest } where
  noStop link listed := wired.noStop link (queued ▸ List.mem_cons_of_mem _ listed)
  linked := wired.linked
  held := wired.held
  closedRuns := wired.closedRuns
  calledBack := wired.calledBack
  hasClient := wired.hasClient
  current link other up listed := wired.current link other up (queued ▸
    listed.imp (List.mem_cons_of_mem _) (List.mem_cons_of_mem _))
  covered link up := (queued ▸ wired.covered link up).tail

/-- The loop begins a callback that is not a connection's own. -/
theorem Wired.begin (wired : Wired loop) (idle : loop.activity = .idle)
    (activity : ChannelActivity μ) (other : ∀ link, activity ≠ .handleConnection link)
    (noClient : activity ≠ .connectClient) : Wired { loop with activity := activity } := by
  constructor <;> grind [Wired]

section RunFunctor

variable {rest : List (ChannelFunctor μ)} (idle : loop.activity = .idle)

include idle

/-- The connect functor starts: it may itself have been the attempt that was on
its way, and goes on to be it. -/
theorem Kept.runConnect (kept : Kept loop starting) (isOpen : loop.channel.closing = false)
    (queued : loop.functors = .connect :: rest) :
    Kept (ChannelLoop.startConnect { loop with functors := rest }) starting := by
  obtain ⟨wired, attended⟩ := kept
  have tail := wired.tail queued
  by_cases up : loop.connected = true
  · have same : ChannelLoop.connected { loop with functors := rest } = true := up
    rw [ChannelLoop.startConnect, if_pos (by rw [same, Bool.or_true])]
    refine ⟨{ tail with }, ?_⟩
    constructor <;> grind [ChannelLoop.connected, Attended, DrainOutstanding]
  · have same : ChannelLoop.connected { loop with functors := rest } = false :=
      eq_false_of_ne_true up
    rw [ChannelLoop.startConnect, if_neg (by simp [same, isOpen])]
    refine ⟨tail.begin idle .ensureClientInLoop nofun nofun, ?_⟩
    constructor <;> grind [Attended, ConnectOutstanding, DrainOutstanding]

/-- The drain functor becomes the drain at work. -/
theorem Kept.runDrain (kept : Kept loop starting) (queued : loop.functors = .drain :: rest) :
    Kept { loop with functors := rest, activity := .drainPendingInLoop } starting := by
  obtain ⟨wired, attended⟩ := kept
  refine ⟨(wired.tail queued).begin idle .drainPendingInLoop nofun nofun, ?_⟩
  constructor <;> grind [Attended, ConnectOutstanding, DrainOutstanding]

omit idle in
/-- A posted send is nobody's duty. -/
theorem Kept.runSend (kept : Kept loop starting) {link : ℕ} {message : μ}
    (queued : loop.functors = .send link message :: rest) :
    Kept (ChannelLoop.write { loop with functors := rest } link message) starting := by
  obtain ⟨wired, attended⟩ := kept
  have tail : Kept { loop with functors := rest } starting := by
    refine ⟨wired.tail queued, ?_⟩
    constructor <;> grind [Attended, ConnectOutstanding, DrainOutstanding]
  exact tail.write link message

omit idle in
/-- The mark is reported crossed: the bytes behind it are still to be written out,
or their callback is behind in the queue. -/
theorem Kept.runHighWaterMark (kept : Kept loop starting) {crossed : ℕ}
    (queued : loop.functors = .highWaterMark crossed :: rest) :
    Kept { loop with functors := rest, channel := { loop.channel with overloaded := true } }
      starting := by
  obtain ⟨wired, attended⟩ := kept
  refine ⟨{ wired.tail queued with }, ?_⟩
  have behind : ∀ link, loop.network = .established link →
      loop.backlog = true ∨ .writeComplete link ∈ rest := by
    intro link up
    have covered := wired.covered link up
    rw [queued] at covered
    exact covered.1 (wired.current link crossed up (.inl (queued ▸ List.mem_cons_self)))
  constructor <;> grind [Attended, ConnectOutstanding, DrainOutstanding]

/-- Everything is written out: the callback goes on as a drain. -/
theorem Kept.runWriteComplete (kept : Kept loop starting) {link : ℕ}
    (queued : loop.functors = .writeComplete link :: rest) :
    Kept { loop with
      functors := rest
      channel := { loop.channel with overloaded := false }
      activity := .drainPendingInLoop } starting := by
  obtain ⟨wired, attended⟩ := kept
  refine ⟨{ (wired.tail queued).begin idle .drainPendingInLoop nofun nofun with }, ?_⟩
  constructor <;> grind [Attended, ConnectOutstanding, DrainOutstanding]

end RunFunctor

/-- The next functor of the queue. -/
theorem Kept.runFunctor (kept : Kept loop starting) (isOpen : loop.channel.closing = false)
    (ran : loop.runFunctor = some next) : Kept next starting := by
  unfold ChannelLoop.runFunctor at ran
  split at ran
  · rename_i functor rest idle queued
    cases functor with
    | connect =>
      obtain rfl := Option.some.inj ran
      exact kept.runConnect idle isOpen queued
    | drain =>
      obtain rfl := Option.some.inj ran
      have draining := kept.runDrain idle queued
      exact draining
    | send link message =>
      obtain rfl := Option.some.inj ran
      exact kept.runSend queued
    | highWaterMark link =>
      obtain rfl := Option.some.inj ran
      exact kept.runHighWaterMark queued
    | writeComplete link =>
      obtain rfl := Option.some.inj ran
      have draining := kept.runWriteComplete idle queued
      exact draining
    | stop link => exact absurd (queued ▸ List.mem_cons_self) (kept.1.noStop link)
  · cases ran

theorem Kept.establish (kept : Kept loop starting) (ran : loop.establish = some next) :
    Kept next starting := by
  obtain ⟨wired, attended⟩ := kept
  simp only [ChannelLoop.establish] at ran
  split at ran
  · rename_i idle attempting
    split at ran
    · cases ran
    rename_i noCallback
    cases ran
    have stale : ∀ functor ∈ loop.functors, ChannelLoop.isCallback functor = false := by
      simpa using noCallback
    have none : ∀ other, ChannelFunctor.highWaterMark other ∉ loop.functors ∧
        ChannelFunctor.writeComplete other ∉ loop.functors := by
      intro other
      constructor <;> intro listed <;> cases stale _ listed
    have covered : ∀ link, Covered link loop.backlog loop.functors := by
      intro link
      clear noCallback stale
      generalize loop.functors = functors at none
      induction functors with
      | nil => trivial
      | cons functor rest ih => cases functor <;> grind [Covered]
    constructor <;> constructor <;>
      grind [Wired, Attended, ConnectOutstanding, DrainOutstanding]
  · cases ran

theorem Kept.close (kept : Kept loop starting) (ran : loop.close = some next) :
    Kept next starting := by
  obtain ⟨wired, attended⟩ := kept
  simp only [ChannelLoop.close] at ran
  split at ran
  · cases ran
    constructor <;> constructor <;>
      grind [Wired, Attended, ConnectOutstanding, DrainOutstanding]
  · cases ran

theorem Kept.flush (kept : Kept loop starting) (ran : loop.flush = some next) :
    Kept next starting := by
  obtain ⟨wired, attended⟩ := kept
  simp only [ChannelLoop.flush] at ran
  split at ran
  · cases ran
    constructor <;> constructor <;>
      grind [ChannelLoop.queue, Wired, Attended, ConnectOutstanding, DrainOutstanding,
        covered_writeComplete]
  · cases ran

theorem Kept.receive (kept : Kept loop starting) {message : μ}
    (ran : loop.receive = some (message, next)) : Kept next starting := by
  obtain ⟨wired, attended⟩ := kept
  simp only [ChannelLoop.receive] at ran
  split at ran
  · cases ran
  · cases ran
    exact ⟨{ wired with }, { attended with }⟩

theorem Kept.send (kept : Kept loop starting) (inLoop : Bool) (link : ℕ) (message : μ)
    {answer : Unit} (ran : loop.exec inLoop (.send link message) = some (answer, next)) :
    Kept next starting := by
  simp only [ChannelLoop.exec] at ran
  split at ran
  · obtain rfl := (Prod.mk.inj (Option.some.inj ran)).2
    cases inLoop with
    | true => exact kept.write link message
    | false => exact kept.queue (.send link message) rfl nofun
  · obtain rfl := (Prod.mk.inj (Option.some.inj ran)).2
    obtain ⟨wired, attended⟩ := kept
    exact ⟨{ wired with }, { attended with }⟩

theorem Kept.warm (kept : Kept loop starting) {inLoop answer : Bool}
    (ran : loop.exec inLoop .warm = some (answer, next)) :
    Kept next (starting ∨ answer = true) := by
  obtain ⟨wired, attended⟩ := kept
  simp only [ChannelLoop.exec] at ran
  split at ran
  · cases ran
    constructor <;> constructor <;>
      grind [Wired, Attended, ConnectOutstanding, DrainOutstanding]
  · cases ran
    exact ⟨wired, (Kept.mono ⟨wired, attended⟩ .inl).2⟩

/-- Whoever starts the connect functor hands its duty on. -/
theorem Kept.runInLoop (kept : Kept loop starting) (isOpen : loop.channel.closing = false)
    {inLoop : Bool} {answer : Unit}
    (ran : loop.exec inLoop .runInLoop = some (answer, next)) : Kept next starting' := by
  cases inLoop with
  | true =>
    simp only [ChannelLoop.exec, if_true] at ran
    split at ran
    · rename_i idle
      cases ran
      exact kept.startConnect idle isOpen
    · cases ran
  | false =>
    cases ran
    obtain ⟨wired, attended⟩ := kept.queue .connect rfl nofun
    exact ⟨wired, { attended with asked := fun _ _ => .inr (.inl (by simp [ChannelLoop.queue])) }⟩

/-- Only a stop closes a channel. -/
theorem exec_closing {inLoop : Bool} {β : Type} {request : ChannelCall μ β} {answer : β}
    (ran : loop.exec inLoop request = some (answer, next))
    (stays : stopsChannel request = false) : next.channel.closing = loop.channel.closing := by
  cases request <;> simp only [ChannelLoop.exec, stopsChannel] at ran stays <;>
    grind [ChannelLoop.enqueue, ChannelLoop.write, ChannelLoop.queue, ChannelLoop.startConnect]

theorem Bounded.exec (bounded : Bounded loop) {inLoop : Bool} {β : Type}
    {request : ChannelCall μ β} {answer : β}
    (ran : loop.exec inLoop request = some (answer, next)) : Bounded next := by
  unfold Bounded at bounded ⊢
  cases request <;> simp only [ChannelLoop.exec] at ran <;>
    grind [ChannelLoop.enqueue, ChannelLoop.write, ChannelLoop.queue, ChannelLoop.startConnect]

/-! ### Every state reached -/

variable {pool after : Pool (ChannelLoop μ) (ChannelCall μ) Bool Bool}

/-- Some thread has set `connecting` and is about to start the connect functor. -/
def Starting (pool : Pool (ChannelLoop μ) (ChannelCall μ) Bool Bool) : Prop :=
  ∃ thread ∈ pool.threads, Connecting thread.log = true

/-- The queue keeps to its limit; while the channel is open the duties are kept
and no thread stops it. -/
def Progressing (pool : Pool (ChannelLoop μ) (ChannelCall μ) Bool Bool) : Prop :=
  Bounded pool.state ∧
    (pool.state.channel.closing = false →
      Kept pool.state (Starting pool) ∧ ∀ thread ∈ pool.threads, Stopping thread.log = false)

theorem Progressing.call (progressing : Progressing pool) {number : ℕ}
    {thread : Thread (ChannelCall μ) Bool Bool} {β : Type} {request : ChannelCall μ β}
    {cont : β → Calls (ChannelCall μ) Bool} {answer : β}
    (found : pool.threads[number]? = some thread) (permitted : channelGuard thread.log request)
    (ran : pool.state.exec thread.tag request = some (answer, after.state))
    (threads : after.threads = pool.threads.set number (thread.answered request cont answer)) :
    Progressing after := by
  refine ⟨progressing.1.exec ran, fun isOpen => ?_⟩
  obtain ⟨state, threads'⟩ := after
  obtain rfl : threads' = _ := threads
  have notStop : stopsChannel request = false := by
    cases request with
    | stop =>
      obtain ⟨-, rfl⟩ := Prod.mk.inj (Option.some.inj ran)
      cases isOpen
    | _ => rfl
  have wasOpen : pool.state.channel.closing = false := exec_closing ran notStop ▸ isOpen
  obtain ⟨kept, noStopping⟩ := progressing.2 wasOpen
  have inside := (List.getElem?_eq_some_iff.mp found).1
  -- the duty of another thread stays with it, and a new one falls to this thread
  have stays : Connecting thread.log = false → Starting pool →
      Starting ⟨state, pool.threads.set number (thread.answered request cont answer)⟩ := by
    rintro idle ⟨other, member, connecting⟩
    refine ⟨other, ThreadSystem.mem_set_of_ne found _ member fun same => ?_, connecting⟩
    rw [same, idle] at connecting
    cases connecting
  have begins : startsConnect request answer = true →
      Starting ⟨state, pool.threads.set number (thread.answered request cont answer)⟩ :=
    fun starts => ⟨_, List.mem_set inside _, starts⟩
  refine ⟨?_, fun other member => ?_⟩
  · cases request with
    | enqueue message =>
      have result : pool.state.enqueue message = (answer, state) := Option.some.inj ran
      have enqueued := kept.enqueue message
      rw [result] at enqueued
      exact enqueued.mono (Or.rec (stays permitted) begins)
    | send link message => exact (kept.send thread.tag link message ran).mono (stays permitted)
    | warm => exact (kept.warm ran).mono (Or.rec (stays permitted) begins)
    | runInLoop => exact kept.runInLoop wasOpen ran
    | returned =>
      have same : state = pool.state := by
        simp only [ChannelLoop.exec] at ran
        split at ran <;> cases ran <;> rfl
      rw [same]
      exact kept.mono (same ▸ stays permitted)
    | queueDrain =>
      obtain ⟨-, rfl⟩ := Prod.mk.inj (Option.some.inj ran)
      exact (kept.queue .drain rfl nofun).mono (stays permitted)
    | stop => cases notStop
    | queueStop link =>
      have stopping := noStopping thread (List.mem_of_getElem? found)
      rw [permitted.2] at stopping
      cases stopping
  · rcases List.mem_or_eq_of_mem_set member with old | rfl
    · exact noStopping other old
    · exact notStop

/-- The loop's callbacks never reopen a channel and never fill its queue. -/
theorem proceed_frame (ran : loop.proceed = some next) :
    next.channel.closing = loop.channel.closing ∧ (Bounded loop → Bounded next) := by
  unfold Bounded
  cases here : loop.activity <;> simp only [ChannelLoop.proceed, here] at ran <;>
    grind [ChannelLoop.write, ChannelLoop.queue]

theorem runFunctor_frame (ran : loop.runFunctor = some next) :
    next.channel.closing = loop.channel.closing ∧ (Bounded loop → Bounded next) := by
  unfold Bounded
  cases idle : loop.activity with
  | idle =>
    cases queued : loop.functors with
    | nil => simp [ChannelLoop.runFunctor, idle, queued] at ran
    | cons functor rest =>
      cases functor <;> simp only [ChannelLoop.runFunctor, idle, queued] at ran <;>
        grind [ChannelLoop.write, ChannelLoop.queue, ChannelLoop.startConnect]
  | handleConnection | ensureClientInLoop | connectClient | drainPendingInLoop | drainSend =>
    simp [ChannelLoop.runFunctor, idle] at ran

/-- The loop or the network moved, and no thread began. -/
theorem Progressing.moved (progressing : Progressing pool) {next : ChannelLoop μ}
    (frame : next.channel.closing = pool.state.channel.closing ∧
      (Bounded pool.state → Bounded next))
    (kept : pool.state.channel.closing = false → Kept pool.state (Starting pool) →
      Kept next (Starting pool)) : Progressing ⟨next, pool.threads⟩ := by
  refine ⟨frame.2 progressing.1, fun isOpen => ?_⟩
  have wasOpen : pool.state.channel.closing = false := frame.1 ▸ isOpen
  obtain ⟨before, noStopping⟩ := progressing.2 wasOpen
  exact ⟨kept wasOpen before, noStopping⟩

/-- A thread begins. -/
theorem Progressing.arrive (progressing : Progressing pool)
    (job : Bool × Calls (ChannelCall μ) Bool) :
    Progressing ⟨pool.state, pool.threads ++ [.start job]⟩ := by
  refine ⟨progressing.1, fun isOpen => ?_⟩
  obtain ⟨kept, noStopping⟩ := progressing.2 isOpen
  refine ⟨kept.mono fun ⟨other, member, connecting⟩ =>
    ⟨other, List.mem_append_left _ member, connecting⟩, fun other member => ?_⟩
  rcases List.mem_append.mp member with old | new
  · exact noStopping other old
  · rw [List.mem_singleton.mp new]
    rfl

/-- Every pool reached keeps its duties. -/
theorem progressing_of_reach {limit : ℕ}
    (reached : (channelSystem μ).machine.Reach Machine.anyStep (freshChannel μ limit) pool) :
    Progressing pool := by
  induction reached with
  | refl =>
    exact ⟨Nat.zero_le _, fun _ => ⟨(kept_create limit).mono False.elim, fun _ member => by
      cases member⟩⟩
  | @step pool next turn before _ moved progressing =>
    rcases ThreadSystem.turn_cases moved with
      ⟨number, thread, β, request, cont, answer, -, found, program, ran, threads⟩ |
      ⟨event, jobs, -, acted, threads⟩
    · have meets := channel_meets before thread (List.mem_of_getElem? found)
      rw [program] at meets
      exact progressing.call found meets.1 ran threads
    · obtain ⟨state, threads'⟩ := next
      obtain rfl : threads' = _ := threads
      -- such an event leaves the threads as they are
      have byLoop : ∀ {step : Option (ChannelLoop μ)},
          step.map (·, ([] : List (Bool × Calls (ChannelCall μ) Bool))) = some (state, jobs) →
          (step = some state → Progressing ⟨state, pool.threads⟩) →
          Progressing ⟨state, pool.threads ++ jobs.map Thread.start⟩ := by
        intro step stepped progress
        obtain ⟨loop, ran, same⟩ := Option.map_eq_some_iff.mp stepped
        cases same
        rw [List.map_nil, List.append_nil]
        exact progress ran
      cases event with
      | enqueueOrSend message inLoop =>
        cases acted
        exact progressing.arrive _
      | prewarm inLoop =>
        cases acted
        exact progressing.arrive _
      | stopChannel inLoop =>
        cases acted
        exact progressing.arrive _
      | runFunctor =>
        exact byLoop acted fun ran => progressing.moved (runFunctor_frame ran)
          fun isOpen kept => kept.runFunctor isOpen ran
      | proceed =>
        exact byLoop acted fun ran => progressing.moved (proceed_frame ran)
          fun isOpen kept => kept.proceed isOpen ran
      | establish =>
        exact byLoop acted fun ran => progressing.moved (by grind [ChannelLoop.establish, Bounded])
          fun _ kept => kept.establish ran
      | close =>
        exact byLoop acted fun ran => progressing.moved (by grind [ChannelLoop.close, Bounded])
          fun _ kept => kept.close ran
      | flush =>
        exact byLoop acted fun ran => progressing.moved
          (by grind [ChannelLoop.flush, ChannelLoop.queue, Bounded]) fun _ kept => kept.flush ran
      | receive =>
        obtain ⟨⟨message, loop⟩, ran, same⟩ := Option.map_eq_some_iff.mp acted
        cases same
        rw [List.map_nil, List.append_nil]
        exact progressing.moved (by grind [ChannelLoop.receive, Bounded]) fun _ kept =>
          kept.receive ran
      | socket mood =>
        cases acted
        rw [List.map_nil, List.append_nil]
        exact progressing.moved ⟨rfl, id⟩ fun _ kept => ⟨{ kept.1 with }, { kept.2 with }⟩

/-- Some thread is about to start the connect functor. -/
def AboutToConnect (pool : Pool (ChannelLoop μ) (ChannelCall μ) Bool Bool) : Prop :=
  ∃ thread ∈ pool.threads, ∃ next, thread.rest = .call .runInLoop next

theorem aboutToConnect_of_starting
    (meets : ∀ thread ∈ pool.threads, thread.rest.Meets channelGuard channelPost thread.log)
    (starting : Starting pool) : AboutToConnect pool := by
  obtain ⟨thread, member, connecting⟩ := starting
  have promise := meets thread member
  refine ⟨thread, member, ?_⟩
  cases program : thread.rest with
  | ret value =>
    rw [program, Calls.meets_ret, channelPost, connecting] at promise
    cases promise
  | call request next =>
    rw [program, Calls.meets_call] at promise
    cases request <;> simp [channelGuard, connecting] at promise
    exact ⟨next, rfl⟩

/-- **No message is stranded in a channel.** In every state reached by any threads,
the loop and the network: while the channel is open and messages wait, a
connection is on its way, or a drain is queued or at work, or the connection is up
and over its mark with bytes still to be written out or their callback queued, or
its disconnect callback is still to run. The queue keeps to its limit, and neither a
disconnect nor the callback that reports it takes anything out of it. -/
theorem channel_progress {limit : ℕ}
    (reached : (channelSystem μ).machine.Reach Machine.anyStep (freshChannel μ limit) pool) :
    let loop := pool.state
    (loop.channel.closing = false → loop.channel.pending ≠ [] →
        ConnectOutstanding loop (AboutToConnect pool) ∨ DrainOutstanding loop ∨
        (∃ link, loop.channel.connection = some link ∧ loop.network = .established link ∧
          loop.channel.overloaded = true ∧
          (loop.backlog = true ∨ .writeComplete link ∈ loop.functors)) ∨
        ∃ link, loop.network = .closed link ∧ loop.activity = .handleConnection link) ∧
      loop.channel.pending.length ≤ loop.channel.pendingLimit ∧
      ∀ next, (loop.close = some next ∨
          (∃ link, loop.activity = .handleConnection link) ∧ loop.proceed = some next) →
        next.channel.pending = loop.channel.pending := by
  have progressing := progressing_of_reach reached
  refine ⟨fun isOpen waiting => ?_, progressing.1, fun next disconnect => ?_⟩
  · obtain ⟨⟨wired, attended⟩, -⟩ := progressing.2 isOpen
    -- without a connection one is on its way, and with one the link is up or just down
    cases connection : pool.state.channel.connection with
    | none =>
      cases connecting : pool.state.channel.connecting with
      | false => exact absurd (attended.quiet connection connecting) waiting
      | true =>
        have about := aboutToConnect_of_starting (channel_meets reached)
        exact .inl (attended.asked connection connecting |>.imp_left about)
    | some link =>
      rcases wired.linked link connection with up | down
      · -- an overloaded link has a buffer that is still to be written, or a callback to run
        cases overloaded : pool.state.channel.overloaded with
        | false => exact .inr (.inl (attended.draining link connection up overloaded waiting))
        | true =>
          exact .inr (.inr (.inl ⟨link, rfl, up, rfl, attended.buffered link connection up
            overloaded⟩))
      · exact .inr (.inr (.inr ⟨link, down, wired.closedRuns link down⟩))
  · rcases disconnect with down | ⟨⟨link, here⟩, ran⟩
    · simp only [ChannelLoop.close] at down
      split at down <;> cases down
      rfl
    · simp only [ChannelLoop.proceed, here] at ran
      split at ran <;> cases ran <;> rfl

/-- Two messages wait for a connection, which comes up, takes them both and goes
down; a third arrives before the disconnect callback has run. -/
def flappingChannel : List (Turn (ChannelEvent ℕ)) :=
  [.environment (.enqueueOrSend 1 false), .environment (.enqueueOrSend 2 false),
    .environment (.enqueueOrSend 3 false), .thread 0, .thread 0, .thread 0, .thread 1,
    .environment .runFunctor, .environment .proceed, .environment .proceed,
    .environment .establish, .environment .proceed, .environment .proceed, .environment .proceed,
    .environment .proceed, .environment .proceed, .environment .proceed,
    .environment .close, .thread 2]

theorem channel_progress_flapping :
    ∃ pool, (channelSystem ℕ).machine.run (freshChannel ℕ 5) flappingChannel = some pool ∧
      pool.state.channel.pending = [3] ∧ pool.state.written = [(0, 1), (0, 2)] ∧
      (ConnectOutstanding pool.state (AboutToConnect pool) ∨ DrainOutstanding pool.state ∨
        (∃ link, pool.state.channel.connection = some link ∧
          pool.state.network = .established link ∧ pool.state.channel.overloaded = true ∧
          (pool.state.backlog = true ∨ .writeComplete link ∈ pool.state.functors)) ∨
        ∃ link, pool.state.network = .closed link ∧
          pool.state.activity = .handleConnection link) := by
  refine ⟨_, rfl, rfl, rfl, ?_⟩
  have ran : (channelSystem ℕ).machine.run (freshChannel ℕ 5) flappingChannel = some _ := rfl
  exact (channel_progress (.of_run .refl (fun _ _ => trivial) ran)).1 rfl nofun

end ClusterChat
