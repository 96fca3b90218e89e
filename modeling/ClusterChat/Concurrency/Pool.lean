/-
# Thread pools

Threads run programs of calls over one shared state. A turn of a thread
performs its next call, unless the state makes it wait; a turn of the
environment moves the state and may start new threads. Threads are numbered in the order they start
and keep their log
after they return, so the whole history of a run stays visible.

Contracts proved of the programs a pool may start carry over to every thread of
every pool reached, whatever the interleaving.
-/

import ClusterChat.Concurrency.Calls
import ClusterChat.Concurrency.Machine

namespace ClusterChat

/-- A thread: what it was started for, its answered calls, the latest first,
and what is left of its program. -/
structure Thread (F : Type → Type) (τ ρ : Type) : Type 1 where
  tag : τ
  log : List (Event F)
  rest : Calls F ρ

/-- A shared state and the threads working on it. -/
structure Pool (σ : Type) (F : Type → Type) (τ ρ : Type) : Type 1 where
  state : σ
  threads : List (Thread F τ ρ)

/-- One turn of a pool: a thread's next call, or a step of the environment. -/
inductive Turn (ε : Type)
  | thread (number : ℕ)
  | environment (event : ε)

/-- How calls act on the shared state, and how the environment does. A call
sees the number and the tag of its thread, and waits where it has no result. -/
structure ThreadSystem (σ : Type) (F : Type → Type) (τ ρ ε : Type) where
  exec : ℕ → τ → {β : Type} → F β → σ → Option (β × σ)
  environment : ε → σ → Option (σ × List (τ × Calls F ρ))

namespace Thread

variable {F : Type → Type} {τ ρ : Type}

/-- A thread about to make its first call. -/
def start (job : τ × Calls F ρ) : Thread F τ ρ := ⟨job.1, [], job.2⟩

/-- A thread after its next call was answered. -/
def answered {β : Type} (thread : Thread F τ ρ) (request : F β) (next : β → Calls F ρ)
    (answer : β) : Thread F τ ρ :=
  { thread with log := ⟨request, answer⟩ :: thread.log, rest := next answer }

@[simp] theorem start_tag (job : τ × Calls F ρ) : (start job).tag = job.1 := rfl

@[simp] theorem start_log (job : τ × Calls F ρ) : (start job).log = [] := rfl

@[simp] theorem start_rest (job : τ × Calls F ρ) : (start job).rest = job.2 := rfl

section Answered

variable {β : Type} (thread : Thread F τ ρ) (request : F β) (next : β → Calls F ρ) (answer : β)

@[simp] theorem answered_tag : (thread.answered request next answer).tag = thread.tag := rfl

@[simp] theorem answered_log :
    (thread.answered request next answer).log = ⟨request, answer⟩ :: thread.log := rfl

@[simp] theorem answered_rest : (thread.answered request next answer).rest = next answer := rfl

end Answered

end Thread

namespace ThreadSystem

variable {σ : Type} {F : Type → Type} {τ ρ ε : Type} (system : ThreadSystem σ F τ ρ ε)

/-- Perform the next call of one thread. -/
def callStep (pool : Pool σ F τ ρ) (number : ℕ) : Option (Pool σ F τ ρ) :=
  match pool.threads[number]? with
  | none => none
  | some thread =>
    match thread.rest with
    | .ret _ => none
    | .call request next =>
      (system.exec number thread.tag request pool.state).map fun (answer, state) =>
        ⟨state, pool.threads.set number (thread.answered request next answer)⟩

/-- Take one turn. -/
def turn (pool : Pool σ F τ ρ) : Turn ε → Option (Pool σ F τ ρ)
  | .thread number => system.callStep pool number
  | .environment event =>
    (system.environment event pool.state).map fun (state, jobs) =>
      ⟨state, pool.threads ++ jobs.map Thread.start⟩

/-- The machine of a thread system. -/
def machine : Machine (Pool σ F τ ρ) (Turn ε) := ⟨system.turn⟩

@[simp] theorem machine_step (pool : Pool σ F τ ρ) (turn : Turn ε) :
    system.machine.step pool turn = system.turn pool turn := rfl

variable {system} {pool next : Pool σ F τ ρ}

/-- **Inversion of a turn.** Either one thread's call was answered, or the
environment moved and started threads at the end of the pool. -/
theorem turn_cases {turn : Turn ε} (moved : system.turn pool turn = some next) :
    (∃ (number : ℕ) (thread : Thread F τ ρ) (β : Type) (request : F β)
        (cont : β → Calls F ρ) (answer : β),
      turn = .thread number ∧ pool.threads[number]? = some thread ∧
      thread.rest = .call request cont ∧
      system.exec number thread.tag request pool.state = some (answer, next.state) ∧
      next.threads = pool.threads.set number (thread.answered request cont answer)) ∨
    (∃ (event : ε) (jobs : List (τ × Calls F ρ)),
      turn = .environment event ∧
      system.environment event pool.state = some (next.state, jobs) ∧
      next.threads = pool.threads ++ jobs.map Thread.start) := by
  cases turn with
  | thread number =>
    refine .inl ?_
    simp only [ThreadSystem.turn, callStep] at moved
    cases found : pool.threads[number]? with
    | none => simp [found] at moved
    | some thread =>
      rw [found] at moved
      cases program : thread.rest with
      | ret value => simp [program] at moved
      | call request cont =>
        simp only [program, Option.map_eq_some_iff] at moved
        obtain ⟨⟨answer, state⟩, ran, rfl⟩ := moved
        exact ⟨number, thread, _, request, cont, answer, rfl, found, program, ran, rfl⟩
  | environment event =>
    refine .inr ?_
    simp only [ThreadSystem.turn, Option.map_eq_some_iff] at moved
    obtain ⟨⟨state, jobs⟩, acted, rfl⟩ := moved
    exact ⟨event, jobs, rfl, acted, rfl⟩

/-- A thread goes on in a turn: it keeps its tag, and its log gets longer or stays. -/
theorem turn_goesOn {turn : Turn ε} (moved : system.turn pool turn = some next)
    {thread : Thread F τ ρ} (member : thread ∈ pool.threads) :
    ∃ later ∈ next.threads, later.tag = thread.tag ∧ thread.log <:+ later.log := by
  rcases turn_cases moved with
    ⟨number, moving, β, request, cont, answer, -, found, -, -, threads⟩ |
    ⟨event, jobs, -, -, threads⟩
  · obtain ⟨index, here⟩ := List.mem_iff_getElem?.mp member
    have bound : index < pool.threads.length := (List.getElem?_eq_some_iff.mp here).1
    by_cases same : number = index
    · subst same
      obtain rfl := Option.some.inj (here.symm.trans found)
      refine ⟨thread.answered request cont answer, ?_, rfl, List.suffix_cons _ _⟩
      rw [threads]
      exact List.mem_of_getElem? (List.getElem?_set_self bound)
    · refine ⟨thread, ?_, rfl, List.suffix_refl _⟩
      rw [threads]
      apply List.mem_of_getElem? (i := index)
      rw [List.getElem?_set_ne same, here]
  · refine ⟨thread, ?_, rfl, List.suffix_refl _⟩
    rw [threads]
    exact List.mem_append_left _ member

/-- What holds of every thread of a pool, kept by answered calls and true of
started threads, is kept by a turn. -/
theorem turn_forall_threads {holds : Thread F τ ρ → Prop} {turn : Turn ε}
    (before : ∀ thread ∈ pool.threads, holds thread)
    (answers : ∀ (thread : Thread F τ ρ) {β : Type} (request : F β) (cont : β → Calls F ρ)
      (answer : β), holds thread → thread.rest = .call request cont →
      holds (thread.answered request cont answer))
    (starts : ∀ event state jobs, system.environment event pool.state = some (state, jobs) →
      ∀ job ∈ jobs, holds (.start job))
    (moved : system.turn pool turn = some next) : ∀ thread ∈ next.threads, holds thread := by
  rcases turn_cases moved with
    ⟨number, thread, β, request, cont, answer, -, found, program, -, threads⟩ |
    ⟨event, jobs, -, acted, threads⟩
  · intro other member
    rw [threads] at member
    rcases List.mem_or_eq_of_mem_set member with old | rfl
    · exact before other old
    · exact answers thread request cont _ (before thread (List.mem_of_getElem? found)) program
  · intro other member
    rw [threads, List.mem_append, List.mem_map] at member
    rcases member with old | ⟨job, listed, rfl⟩
    · exact before other old
    · exact starts event next.state jobs acted job listed

/-- Contracts of the started programs hold of every thread of a pool reached. -/
theorem reach_meets {allowed : Pool σ F τ ρ → Turn ε → Prop} {initial : Pool σ F τ ρ}
    (guard : τ → List (Event F) → {β : Type} → F β → Prop)
    (post : τ → List (Event F) → ρ → Prop)
    (initially : ∀ thread ∈ initial.threads,
      thread.rest.Meets (guard thread.tag) (post thread.tag) thread.log)
    (starts : ∀ event state state' jobs, system.environment event state = some (state', jobs) →
      ∀ job ∈ jobs, job.2.Meets (guard job.1) (post job.1) [])
    (reached : system.machine.Reach allowed initial pool) :
    ∀ thread ∈ pool.threads,
      thread.rest.Meets (guard thread.tag) (post thread.tag) thread.log := by
  refine reached.invariant (fun pool => ∀ thread ∈ pool.threads,
    thread.rest.Meets (guard thread.tag) (post thread.tag) thread.log) initially ?_
  intro pool next turn before _ moved
  refine turn_forall_threads before ?_ ?_ moved
  · intro thread β request cont answer meets program
    rw [program] at meets
    exact meets.2 answer
  · intro event state jobs acted job listed
    exact starts event pool.state state jobs acted job listed

/-- Contracts over a ghost state hold of every thread of a pool reached, in the
ghost state that its log has led to. -/
theorem reach_follows {γ : Type} {allowed : Pool σ F τ ρ → Turn ε → Prop}
    {initial : Pool σ F τ ρ} (ghost : τ → List (Event F) → γ) (advance : γ → Event F → γ)
    (guard : γ → ⦃β : Type⦄ → F β → Prop) (post : γ → ρ → Prop)
    (advances : ∀ tag event log, ghost tag (event :: log) = advance (ghost tag log) event)
    (initially : ∀ thread ∈ initial.threads,
      thread.rest.Follows advance guard post (ghost thread.tag thread.log))
    (starts : ∀ event state state' jobs, system.environment event state = some (state', jobs) →
      ∀ job ∈ jobs, job.2.Follows advance guard post (ghost job.1 []))
    (reached : system.machine.Reach allowed initial pool) :
    ∀ thread ∈ pool.threads,
      thread.rest.Follows advance guard post (ghost thread.tag thread.log) := by
  refine reached.invariant (fun pool => ∀ thread ∈ pool.threads,
    thread.rest.Follows advance guard post (ghost thread.tag thread.log)) initially ?_
  intro pool next turn before _ moved
  refine turn_forall_threads before ?_ ?_ moved
  · intro thread β request cont answer follows program
    rw [program] at follows
    have after := follows.2 answer
    rw [← advances] at after
    exact after
  · intro event state jobs acted job listed
    exact starts event pool.state state jobs acted job listed

/-! ### A thread that is left alone

A thread whose turns follow each other to its end does what its program does as a
whole. -/

theorem callStep_call {number : ℕ} {thread : Thread F τ ρ} {β : Type} {request : F β}
    {cont : β → Calls F ρ} (found : pool.threads[number]? = some thread)
    (program : thread.rest = .call request cont) :
    system.callStep pool number =
      (system.exec number thread.tag request pool.state).map fun (answer, state) =>
        ⟨state, pool.threads.set number (thread.answered request cont answer)⟩ := by
  simp only [callStep, found, program]

theorem callStep_ret {number : ℕ} {thread : Thread F τ ρ} {value : ρ}
    (found : pool.threads[number]? = some thread) (program : thread.rest = .ret value) :
    system.callStep pool number = none := by
  simp only [callStep, found, program]

/-- Turns of one thread that bring it to its end are its whole run. -/
theorem eval_of_run {number count : ℕ} {thread finished : Thread F τ ρ} {value : ρ}
    (found : pool.threads[number]? = some thread)
    (ran : system.machine.run pool (List.replicate count (.thread number)) = some next)
    (done : next.threads[number]? = some finished) (returned : finished.rest = .ret value) :
    thread.rest.eval (system.exec number thread.tag) pool.state = some (value, next.state) := by
  induction count generalizing pool thread with
  | zero =>
    obtain rfl := Option.some.inj ran
    obtain rfl := Option.some.inj (found.symm.trans done)
    rw [returned, Calls.eval_ret]
  | succ count ih =>
    rw [List.replicate_succ, Machine.run_cons] at ran
    obtain ⟨middle, moved, ran⟩ := Option.bind_eq_some_iff.mp ran
    cases program : thread.rest with
    | ret other => cases (callStep_ret found program).symm.trans moved
    | call request cont =>
      obtain ⟨⟨answer, state⟩, acted, rfl⟩ :=
        Option.map_eq_some_iff.mp ((callStep_call found program).symm.trans moved)
      have bound : number < pool.threads.length := (List.getElem?_eq_some_iff.mp found).1
      have here : (pool.threads.set number (thread.answered request cont answer))[number]? =
          some (thread.answered request cont answer) := List.getElem?_set_self bound
      have rest := ih here ran
      rw [Calls.eval_call, acted]
      exact rest

/-- The whole run of a thread is made of turns of it. -/
theorem run_of_eval {number : ℕ} {tag : τ} {program : Calls F ρ} {value : ρ} {after : σ}
    {log : List (Event F)} (found : pool.threads[number]? = some ⟨tag, log, program⟩)
    (ran : program.eval (system.exec number tag) pool.state = some (value, after)) :
    ∃ count last log', system.machine.run pool (List.replicate count (.thread number)) = some last ∧
      last.state = after ∧ last.threads[number]? = some ⟨tag, log', .ret value⟩ := by
  induction program generalizing pool log with
  | ret other =>
    obtain ⟨rfl, rfl⟩ := Prod.mk.inj (Option.some.inj ran)
    exact ⟨0, pool, log, rfl, rfl, found⟩
  | call request cont ih =>
    rw [Calls.eval_call] at ran
    obtain ⟨⟨answer, state⟩, acted, ran⟩ := Option.bind_eq_some_iff.mp ran
    have bound : number < pool.threads.length := (List.getElem?_eq_some_iff.mp found).1
    let moved : Pool σ F τ ρ :=
      ⟨state, pool.threads.set number ⟨tag, ⟨request, answer⟩ :: log, cont answer⟩⟩
    have here : moved.threads[number]? = some ⟨tag, ⟨request, answer⟩ :: log, cont answer⟩ :=
      List.getElem?_set_self bound
    obtain ⟨count, last, log', ran', rest⟩ := ih answer here ran
    refine ⟨count + 1, last, log', ?_, rest⟩
    rw [List.replicate_succ, Machine.run_cons, machine_step, turn, callStep_call found rfl, acted]
    exact ran'

/-- An event, and then turns of one thread. -/
def handling (number count : ℕ) (event : ε) : List (Turn ε) :=
  .environment event :: List.replicate count (.thread number)

variable (system) in
/-- What a pool comes to where the job that an event starts runs to its end with
nothing in between. -/
def Completes (pool : Pool σ F τ ρ) (event : ε) (next : Pool σ F τ ρ) : Prop :=
  ∃ count finished value,
    system.machine.run pool (handling pool.threads.length count event) = some next ∧
      next.threads[pool.threads.length]? = some finished ∧ finished.rest = .ret value

section Completes

variable {event : ε} {state : σ} {job : τ × Calls F ρ}

theorem environment_turn (starts : system.environment event pool.state = some (state, [job])) :
    system.turn pool (.environment event) = some ⟨state, pool.threads ++ [.start job]⟩ := by
  simp only [turn, starts, Option.map_some, List.map_cons, List.map_nil]

/-- A run of an event and of its thread, checked to have come to its end. -/
theorem completes_of_run {number count : ℕ} (last : pool.threads.length = number)
    (ran : system.machine.run pool (handling number count event) = some next)
    (ended : ((next.threads[number]?).bind fun thread => thread.rest.returned).isSome = true) :
    system.Completes pool event next := by
  obtain ⟨value, ended⟩ := Option.isSome_iff_exists.mp ended
  obtain ⟨finished, found, returned⟩ := Option.bind_eq_some_iff.mp ended
  subst last
  exact ⟨count, finished, value, ran, found, Calls.returned_eq_some.mp returned⟩

theorem Completes.eval (completes : system.Completes pool event next)
    (starts : system.environment event pool.state = some (state, [job])) :
    ∃ value, job.2.eval (system.exec pool.threads.length job.1) state =
      some (value, next.state) := by
  obtain ⟨count, finished, value, ran, done, returned⟩ := completes
  rw [handling, Machine.run_cons, machine_step, environment_turn starts, Option.bind_some] at ran
  exact ⟨value, eval_of_run List.getElem?_concat_length ran done returned⟩

theorem completes_of_eval {value : ρ} {after : σ}
    (starts : system.environment event pool.state = some (state, [job]))
    (ran : job.2.eval (system.exec pool.threads.length job.1) state = some (value, after)) :
    ∃ next, system.Completes pool event next ∧ next.state = after := by
  let started : Pool σ F τ ρ := ⟨state, pool.threads ++ [.start job]⟩
  have here : started.threads[pool.threads.length]? = some (.start job) :=
    List.getElem?_concat_length
  obtain ⟨count, next, log, ran', same, done⟩ := run_of_eval here ran
  refine ⟨next, ⟨count, _, value, ?_, done, rfl⟩, same⟩
  rw [handling, Machine.run_cons, machine_step, environment_turn starts]
  exact ran'

end Completes

/-! ### The threads of a pool -/

/-- Where one item was replaced, an item is the new one or as it was. -/
theorem getElem?_set_cases {α : Type*} {items : List α} {number index : ℕ} {new other : α}
    (found : (items.set number new)[index]? = some other) :
    index = number ∧ other = new ∨ index ≠ number ∧ items[index]? = some other := by
  by_cases same : index = number
  · subst same
    have bound : index < items.length := by
      have bound := (List.getElem?_eq_some_iff.mp found).1
      rwa [List.length_set] at bound
    rw [List.getElem?_set_self bound] at found
    exact .inl ⟨rfl, (Option.some.inj found).symm⟩
  · rw [List.getElem?_set_ne (Ne.symm same)] at found
    exact .inr ⟨same, found⟩

/-- A thread of a pool that has grown was there, or has just started. -/
theorem getElem?_append_cases {α : Type*} {items started : List α} {index : ℕ} {other : α}
    (found : (items ++ started)[index]? = some other) :
    items[index]? = some other ∨ other ∈ started := by
  rw [List.getElem?_append] at found
  split at found
  · exact .inl found
  · exact .inr (List.mem_of_getElem? found)

/-- A turn of one thread leaves the others where they are. -/
theorem mem_set_of_ne {α : Type*} {items : List α} {number : ℕ} {old other : α}
    (found : items[number]? = some old) (new : α) (member : other ∈ items) (differ : other ≠ old) :
    other ∈ items.set number new := by
  obtain ⟨index, here⟩ := List.mem_iff_getElem?.mp member
  have apart : number ≠ index := by
    rintro rfl
    exact differ (Option.some.inj (here.symm.trans found))
  exact List.mem_iff_getElem?.mpr ⟨index, by rw [List.getElem?_set_ne apart, here]⟩

/-- Taking a turn in a thread changes a count of threads by that thread alone. -/
theorem countP_set_add {α : Type*} (counts : α → Bool) {items : List α} {number : ℕ} {old : α}
    (found : items[number]? = some old) (new : α) :
    (items.set number new).countP counts + (counts old).toNat =
      items.countP counts + (counts new).toNat := by
  induction items generalizing number with
  | nil => cases found
  | cons head rest ih =>
    cases number with
    | zero =>
      obtain rfl := Option.some.inj found
      rw [List.set_cons_zero, List.countP_cons, List.countP_cons]
      cases counts head <;> cases counts new <;> simp
    | succ number =>
      have tail := ih found
      rw [List.set_cons_succ, List.countP_cons, List.countP_cons]
      omega

/-- One of the items by itself, and how many of the others are counted. -/
theorem exists_countP_set {α : Type*} (counts : α → Bool) {items : List α} {number : ℕ} {old : α}
    (found : items[number]? = some old) :
    ∃ others, items.countP counts = others + (counts old).toNat ∧
      ∀ new, (items.set number new).countP counts = others + (counts new).toNat := by
  have member := List.mem_of_getElem? found
  have some : (counts old).toNat ≤ items.countP counts := by
    cases counted : counts old with
    | false => exact Nat.zero_le _
    | true => exact List.countP_pos_iff.mpr ⟨old, member, counted⟩
  refine ⟨items.countP counts - (counts old).toNat, by omega, fun new => ?_⟩
  have changed := countP_set_add counts found new
  omega

end ThreadSystem

end ClusterChat
