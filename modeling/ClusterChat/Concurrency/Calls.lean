/-
# Programs as trees of calls

A program over an interface `F` is a tree of calls: `F β` holds the requests
answered by a `β`, and the program goes on with whatever answer it gets. Calls
are atomic; everything between two calls is local to the program. The same tree
is read in two ways. Against arbitrary answers it has a log, the events of one
path through it, and a contract bounds what every path may request and where it
may end. Against a state it runs, one call at a time or as a whole.
-/

import Mathlib.Logic.Basic

namespace ClusterChat

/-- A program that makes calls of the interface `F` and returns an `α`. -/
inductive Calls (F : Type → Type) (α : Type) : Type 1
  | ret (value : α) : Calls F α
  | call {β : Type} (request : F β) (next : β → Calls F α) : Calls F α

/-- One answered call. -/
structure Event (F : Type → Type) : Type 1 where
  {β : Type}
  request : F β
  answer : β

namespace Calls

variable {F G : Type → Type} {α β γ σ : Type}

protected def bind : Calls F α → (α → Calls F β) → Calls F β
  | ret value, cont => cont value
  | call request next, cont => call request fun answer => (next answer).bind cont

instance : Monad (Calls F) where
  pure := ret
  bind := Calls.bind

/-- The program that makes one call and returns its answer. -/
def perform (request : F β) : Calls F β := call request ret

@[simp] theorem pure_eq (value : α) : (pure value : Calls F α) = ret value := rfl

@[simp] theorem ret_bind (value : α) (cont : α → Calls F β) :
    (ret value >>= cont) = cont value := rfl

@[simp] theorem call_bind (request : F γ) (next : γ → Calls F α) (cont : α → Calls F β) :
    (call request next >>= cont) = call request fun answer => next answer >>= cont := rfl

@[simp] theorem perform_bind (request : F γ) (cont : γ → Calls F β) :
    (perform request >>= cont) = call request cont := rfl

theorem bind_assoc (program : Calls F α) (first : α → Calls F β) (second : β → Calls F γ) :
    program >>= first >>= second = program >>= fun value => first value >>= second := by
  induction program with
  | ret value => rfl
  | call request next ih => exact congrArg (call request) (funext ih)

/-- The same program over a larger interface. -/
def lift (embed : ∀ {β : Type}, F β → G β) : Calls F α → Calls G α
  | ret value => ret value
  | call request next => call (embed request) fun answer => (next answer).lift embed

@[simp] theorem lift_ret (embed : ∀ {β : Type}, F β → G β) (value : α) :
    (ret value : Calls F α).lift embed = ret value := rfl

@[simp] theorem lift_call (embed : ∀ {β : Type}, F β → G β) (request : F γ)
    (next : γ → Calls F α) :
    (call request next).lift embed =
      call (embed request) fun answer => (next answer).lift embed := rfl

@[simp] theorem lift_perform (embed : ∀ {β : Type}, F β → G β) (request : F γ) :
    (perform request).lift embed = perform (embed request) := rfl

@[simp] theorem lift_bind (embed : ∀ {β : Type}, F β → G β) (program : Calls F α)
    (cont : α → Calls F β) :
    (program >>= cont).lift embed =
      program.lift embed >>= fun value => (cont value).lift embed := by
  induction program with
  | ret value => rfl
  | call request next ih => exact congrArg (call (embed request)) (funext ih)

/-- What a program that has come to its end returns. -/
def returned : Calls F α → Option α
  | ret value => some value
  | call _ _ => none

theorem returned_eq_some {program : Calls F α} {value : α} :
    program.returned = some value ↔ program = ret value := by
  cases program with
  | ret other => simp [returned]
  | call request next => simp [returned]

/-! ### Contracts

A contract is read against every answer. Logs list the latest event first. -/

/-- Every request of the program is permitted by `guard` after the events
logged so far, and `post` holds of the log and the value where it returns. -/
def Meets (guard : List (Event F) → {β : Type} → F β → Prop)
    (post : List (Event F) → α → Prop) : Calls F α → List (Event F) → Prop
  | ret value, log => post log value
  | call request next, log =>
    guard log request ∧ ∀ answer, Meets guard post (next answer) (⟨request, answer⟩ :: log)

section Meets

variable {guard : List (Event F) → {β : Type} → F β → Prop}
  {post : List (Event F) → α → Prop} {log : List (Event F)}

@[simp] theorem meets_ret {value : α} : Meets guard post (ret value) log ↔ post log value :=
  Iff.rfl

@[simp] theorem meets_call {request : F γ} {next : γ → Calls F α} :
    Meets guard post (call request next) log ↔
      guard log request ∧
        ∀ answer, Meets guard post (next answer) (⟨request, answer⟩ :: log) :=
  Iff.rfl

@[simp] theorem meets_perform {request : F α} :
    Meets guard post (perform request) log ↔
      guard log request ∧ ∀ answer, post (⟨request, answer⟩ :: log) answer :=
  Iff.rfl

/-- Contracts compose: the first program ends where the second may start. -/
theorem meets_bind {program : Calls F α} {cont : α → Calls F β}
    {post : List (Event F) → β → Prop} :
    Meets guard post (program >>= cont) log ↔
      Meets guard (fun log value => Meets guard post (cont value) log) program log := by
  induction program generalizing log with
  | ret value => rfl
  | call request next ih =>
    simp only [call_bind, meets_call, ih]

/-- A stronger contract may be used for a weaker one. -/
theorem Meets.mono {post' : List (Event F) → α → Prop}
    {guard' : List (Event F) → {β : Type} → F β → Prop} {program : Calls F α}
    (meets : Meets guard post program log)
    (guards : ∀ log {β : Type} (request : F β), guard log request → guard' log request)
    (posts : ∀ log value, post log value → post' log value) :
    Meets guard' post' program log := by
  induction program generalizing log with
  | ret value => exact posts _ _ meets
  | call request next ih =>
    exact ⟨guards _ _ meets.1, fun answer => ih answer (meets.2 answer)⟩

end Meets

/-- The log of a whole run of a program, which ends with a value. -/
inductive Answers : Calls F α → List (Event F) → α → Prop
  | ret (value : α) : Answers (ret value) [] value
  | call {γ : Type} {request : F γ} {next : γ → Calls F α} {answer : γ} {log : List (Event F)}
      {value : α} (rest : Answers (next answer) log value) :
      Answers (call request next) (log ++ [⟨request, answer⟩]) value

theorem answers_ret {value other : α} {log : List (Event F)} :
    Answers (.ret value) log other ↔ log = [] ∧ other = value := by
  constructor
  · rintro ⟨⟩
    exact ⟨rfl, rfl⟩
  · rintro ⟨rfl, rfl⟩
    exact .ret other

/-- A whole run starts with an answer to the first request. -/
theorem answers_call {request : F γ} {next : γ → Calls F α} {log : List (Event F)} {value : α} :
    Answers (.call request next) log value ↔
      ∃ answer later, Answers (next answer) later value ∧ log = later ++ [⟨request, answer⟩] := by
  constructor
  · rintro ⟨⟩
    rename_i later answer rest
    exact ⟨answer, later, rest, rfl⟩
  · rintro ⟨answer, later, rest, rfl⟩
    exact .call rest

/-- The log of the run in which an oracle answers, and its value. -/
def asked (oracle : ⦃β : Type⦄ → F β → β) : Calls F α → List (Event F) × α
  | ret value => ([], value)
  | call request next =>
    let (later, value) := asked oracle (next (oracle request))
    (later ++ [⟨request, oracle request⟩], value)

theorem answers_asked (oracle : ⦃β : Type⦄ → F β → β) (program : Calls F α) :
    program.Answers (program.asked oracle).1 (program.asked oracle).2 := by
  induction program with
  | ret value => exact .ret value
  | call request next ih => exact .call (ih (oracle request))

/-- What a contract says of the end holds of every whole run. -/
theorem Answers.post {guard : List (Event F) → {β : Type} → F β → Prop}
    {post : List (Event F) → α → Prop} {program : Calls F α} {events log : List (Event F)}
    {value : α} (answers : program.Answers events value) (meets : program.Meets guard post log) :
    post (events ++ log) value := by
  induction answers generalizing log with
  | ret value => exact meets
  | call rest ih =>
    rw [List.append_assoc]
    exact ih (meets.2 _)

/-! ### Contracts over a ghost state

A ghost state moves with the events of a path, and the contract speaks of it
instead of the log. -/

/-- Every request of the program is permitted in the ghost state the path has led
to, and `post` holds of the ghost state and the value where it returns. -/
def Follows (advance : σ → Event F → σ) (guard : σ → ⦃β : Type⦄ → F β → Prop)
    (post : σ → α → Prop) : Calls F α → σ → Prop
  | ret value, ghost => post ghost value
  | call request next, ghost =>
    guard ghost request ∧
      ∀ answer, Follows advance guard post (next answer) (advance ghost ⟨request, answer⟩)

section Follows

variable {advance : σ → Event F → σ} {guard : σ → ⦃β : Type⦄ → F β → Prop} {post : σ → α → Prop}
  {ghost : σ}

@[simp] theorem follows_ret {value : α} :
    Follows advance guard post (ret value) ghost ↔ post ghost value :=
  Iff.rfl

@[simp] theorem follows_call {request : F γ} {next : γ → Calls F α} :
    Follows advance guard post (call request next) ghost ↔ guard ghost request ∧
      ∀ answer, Follows advance guard post (next answer) (advance ghost ⟨request, answer⟩) :=
  Iff.rfl

theorem follows_bind {program : Calls F α} {cont : α → Calls F β} {post : σ → β → Prop} :
    Follows advance guard post (program >>= cont) ghost ↔
      Follows advance guard (fun ghost value => Follows advance guard post (cont value) ghost)
        program ghost := by
  induction program generalizing ghost with
  | ret value => rfl
  | call request next ih => simp only [call_bind, follows_call, ih]

theorem Follows.mono {post' : σ → α → Prop} {program : Calls F α}
    (follows : Follows advance guard post program ghost)
    (posts : ∀ ghost value, post ghost value → post' ghost value) :
    Follows advance guard post' program ghost := by
  induction program generalizing ghost with
  | ret value => exact posts _ _ follows
  | call request next ih => exact ⟨follows.1, fun answer => ih answer (follows.2 answer)⟩

/-- A program in sequence after one that keeps to its contract. -/
theorem Follows.andThen {program : Calls F α} {cont : α → Calls F β} {post : σ → β → Prop}
    {middle : σ → α → Prop} (first : Follows advance guard middle program ghost)
    (rest : ∀ ghost value, middle ghost value → Follows advance guard post (cont value) ghost) :
    Follows advance guard post (program >>= cont) ghost :=
  follows_bind.mpr (first.mono rest)

/-- The ghost state that a log leads to. -/
def ghostAfter (advance : σ → Event F → σ) (ghost : σ) (log : List (Event F)) : σ :=
  log.foldr (fun event ghost => advance ghost event) ghost

/-- Every request of the log was permitted in the ghost state that it was made in. -/
def Kept (advance : σ → Event F → σ) (guard : σ → ⦃β : Type⦄ → F β → Prop) (ghost : σ) :
    List (Event F) → Prop
  | [] => True
  | event :: log =>
    Kept advance guard ghost log ∧ guard (ghostAfter advance ghost log) event.request

@[simp] theorem ghostAfter_nil : ghostAfter advance ghost ([] : List (Event F)) = ghost := rfl

@[simp] theorem ghostAfter_cons (event : Event F) (log : List (Event F)) :
    ghostAfter advance ghost (event :: log) = advance (ghostAfter advance ghost log) event := rfl

theorem ghostAfter_append (later earlier : List (Event F)) :
    ghostAfter advance ghost (later ++ earlier) =
      ghostAfter advance (ghostAfter advance ghost earlier) later :=
  List.foldr_append

/-- A log that goes on where another one has led. -/
theorem kept_append (later earlier : List (Event F)) :
    Kept advance guard ghost (later ++ earlier) ↔
      Kept advance guard ghost earlier ∧
        Kept advance guard (ghostAfter advance ghost earlier) later := by
  induction later with
  | nil => exact (and_iff_left trivial).symm
  | cons event later ih =>
    rw [List.cons_append, Kept, Kept, ih, ghostAfter_append, and_assoc]

/-- A program that follows its contract keeps to it in every whole run. -/
theorem Answers.kept {program : Calls F α} {log : List (Event F)} {value : α}
    (answers : program.Answers log value) (follows : Follows advance guard post program ghost) :
    Kept advance guard ghost log ∧ post (ghostAfter advance ghost log) value := by
  induction answers generalizing ghost with
  | ret value => exact ⟨trivial, follows⟩
  | call rest ih =>
    rw [kept_append, ghostAfter_append]
    obtain ⟨kept, ended⟩ := ih (follows.2 _)
    exact ⟨⟨⟨trivial, follows.1⟩, kept⟩, ended⟩

end Follows

/-- Every request of the program is permitted by `guard`, whatever is answered. -/
def Only (guard : ⦃β : Type⦄ → F β → Prop) : Calls F α → Prop
  | ret _ => True
  | call request next => guard request ∧ ∀ answer, Only guard (next answer)

section Only

variable {guard : ⦃β : Type⦄ → F β → Prop}

@[simp] theorem only_ret {value : α} : Only guard (ret value : Calls F α) := trivial

@[simp] theorem only_call {request : F γ} {next : γ → Calls F α} :
    Only guard (call request next) ↔ guard request ∧ ∀ answer, Only guard (next answer) :=
  Iff.rfl

theorem Only.bind {program : Calls F α} {cont : α → Calls F β} (first : Only guard program)
    (rest : ∀ value, Only guard (cont value)) : Only guard (program >>= cont) := by
  induction program with
  | ret value => exact rest value
  | call request next ih => exact ⟨first.1, fun answer => ih answer (first.2 answer)⟩

/-- Every request of a whole run is one that the program may make. -/
theorem Answers.only {program : Calls F α} {log : List (Event F)} {value : α}
    (answers : program.Answers log value) (only : Only guard program) :
    ∀ event ∈ log, guard event.request := by
  induction answers with
  | ret value => exact List.forall_mem_nil _
  | call rest ih =>
    intro event listed
    rcases List.mem_append.mp listed with later | first
    · exact ih (only.2 _) event later
    · rw [List.mem_singleton.mp first]
      exact only.1

theorem only_of_forall (permits : ∀ ⦃β : Type⦄ (request : F β), guard request)
    (program : Calls F α) : Only guard program := by
  induction program with
  | ret value => trivial
  | call request next ih => exact ⟨permits request, ih⟩

/-- Two bounds on what a program asks for hold together. -/
theorem Only.and {guard' : ⦃β : Type⦄ → F β → Prop} {program : Calls F α}
    (first : Only guard program) (second : Only guard' program) :
    Only (fun _ request => guard request ∧ guard' request) program := by
  induction program with
  | ret value => trivial
  | call request next ih =>
    exact ⟨⟨first.1, second.1⟩, fun answer => ih answer (first.2 answer) (second.2 answer)⟩

theorem Only.mono {weaker : ⦃β : Type⦄ → F β → Prop} {program : Calls F α}
    (only : Only guard program) (implies : ∀ ⦃β : Type⦄ (request : F β), guard request →
      weaker request) : Only weaker program := by
  induction program with
  | ret value => trivial
  | call request next ih => exact ⟨implies request only.1, fun answer => ih answer (only.2 answer)⟩

theorem Only.lift {embed : ∀ {β : Type}, F β → G β} {guard : ⦃β : Type⦄ → G β → Prop}
    {program : Calls F α} (only : Only (fun _ request => guard (embed request)) program) :
    Only guard (program.lift embed) := by
  induction program with
  | ret value => trivial
  | call request next ih => exact ⟨only.1, fun answer => ih answer (only.2 answer)⟩

/-- A program that asks only for what leaves the ghost state alone. -/
theorem Only.follows {advance : σ → Event F → σ} {permitted : σ → ⦃β : Type⦄ → F β → Prop}
    {post : σ → α → Prop} {program : Calls F α} {ghost : σ} (only : Only guard program)
    (allowed : ∀ ⦃β : Type⦄ (request : F β), guard request → permitted ghost request)
    (still : ∀ ⦃β : Type⦄ (request : F β) (answer : β), guard request →
      advance ghost ⟨request, answer⟩ = ghost)
    (returns : ∀ value, post ghost value) : Follows advance permitted post program ghost := by
  induction program with
  | ret value => exact returns value
  | call request next ih =>
    refine ⟨allowed request only.1, fun answer => ?_⟩
    rw [still request answer only.1]
    exact ih answer (only.2 answer)

/-- A program that asks only for what keeps a property of the ghost state. -/
theorem Only.follows_of_kept {advance : σ → Event F → σ}
    {permitted : σ → ⦃β : Type⦄ → F β → Prop} {holds : σ → Prop} {program : Calls F α}
    (only : Only guard program)
    (allowed : ∀ ghost ⦃β : Type⦄ (request : F β), holds ghost → guard request →
      permitted ghost request)
    (kept : ∀ ghost ⦃β : Type⦄ (request : F β) (answer : β), holds ghost → guard request →
      holds (advance ghost ⟨request, answer⟩)) {ghost : σ} (before : holds ghost) :
    Follows advance permitted (fun ghost _ => holds ghost) program ghost := by
  induction program generalizing ghost with
  | ret value => exact before
  | call request next ih =>
    refine ⟨allowed ghost request before only.1, fun answer => ?_⟩
    exact ih answer (only.2 answer) (kept ghost request answer before only.1)

/-- A part that asks only for what the contract permits at any time, with what
comes after it. -/
theorem Only.meetsThen {permitted : List (Event F) → {β : Type} → F β → Prop}
    {post : List (Event F) → β → Prop} {program : Calls F α} {cont : α → Calls F β}
    (only : Only guard program)
    (permits : ∀ log ⦃β : Type⦄ (request : F β), guard request → permitted log request)
    (rest : ∀ log value, Meets permitted post (cont value) log) (log : List (Event F)) :
    Meets permitted post (program >>= cont) log := by
  induction program generalizing log with
  | ret value => exact rest log value
  | call request next ih =>
    exact ⟨permits log request only.1, fun answer => ih answer (only.2 answer) _⟩

/-- A part that asks only for what the contract permits at any time leads to a longer log. -/
theorem Only.meets_longer {permitted : List (Event F) → {β : Type} → F β → Prop}
    {program : Calls F α} (only : Only guard program)
    (permits : ∀ log ⦃β : Type⦄ (request : F β), guard request → permitted log request)
    (log : List (Event F)) : Meets permitted (fun longer _ => log <:+ longer) program log := by
  induction program generalizing log with
  | ret value => exact List.suffix_refl log
  | call request next ih =>
    refine ⟨permits log request only.1, fun answer => ?_⟩
    have later := ih answer (only.2 answer) (⟨request, answer⟩ :: log)
    apply later.mono fun _ _ _ permitted => permitted
    intro longer value suffix
    exact (List.suffix_cons _ log).trans suffix

theorem Only.meets {permitted : List (Event F) → {β : Type} → F β → Prop} {program : Calls F α}
    (only : Only guard program)
    (permits : ∀ log ⦃β : Type⦄ (request : F β), guard request → permitted log request)
    (log : List (Event F)) : Meets permitted (fun _ _ => True) program log := by
  induction program generalizing log with
  | ret value => trivial
  | call request next ih =>
    exact ⟨permits log request only.1, fun answer => ih answer (only.2 answer) _⟩

end Only

/-- Every request of the program is permitted by `guard`, as long as the answers are
lawful. -/
def OnlyUnder (lawful : ∀ ⦃β : Type⦄, F β → β → Prop) (guard : ⦃β : Type⦄ → F β → Prop) :
    Calls F α → Prop
  | ret _ => True
  | call request next =>
    guard request ∧ ∀ answer, lawful request answer → OnlyUnder lawful guard (next answer)

section OnlyUnder

variable {lawful : ∀ ⦃β : Type⦄, F β → β → Prop} {guard : ⦃β : Type⦄ → F β → Prop}

@[simp] theorem onlyUnder_ret {value : α} : OnlyUnder lawful guard (ret value : Calls F α) :=
  trivial

@[simp] theorem onlyUnder_call {request : F γ} {next : γ → Calls F α} :
    OnlyUnder lawful guard (call request next) ↔ guard request ∧
      ∀ answer, lawful request answer → OnlyUnder lawful guard (next answer) :=
  Iff.rfl

/-- What is permitted whatever is answered is permitted under lawful answers. -/
theorem Only.under {program : Calls F α} (only : Only guard program) :
    OnlyUnder lawful guard program := by
  induction program with
  | ret value => trivial
  | call request next ih => exact ⟨only.1, fun answer _ => ih answer (only.2 answer)⟩

theorem OnlyUnder.bind {program : Calls F α} {cont : α → Calls F β}
    (first : OnlyUnder lawful guard program)
    (rest : ∀ value, OnlyUnder lawful guard (cont value)) :
    OnlyUnder lawful guard (program >>= cont) := by
  induction program with
  | ret value => exact rest value
  | call request next ih =>
    exact ⟨first.1, fun answer lawfully => ih answer (first.2 answer lawfully)⟩

end OnlyUnder

/-! ### Running against a state -/

/-- Run a whole program against a state, with no other step in between; `none`
where a call would have to wait. -/
def eval (exec : ∀ {β : Type}, F β → σ → Option (β × σ)) : Calls F α → σ → Option (α × σ)
  | ret value, state => some (value, state)
  | call request next, state =>
    (exec request state).bind fun result => eval exec (next result.1) result.2

section Eval

variable (exec : ∀ {β : Type}, F β → σ → Option (β × σ)) (state : σ)

@[simp] theorem eval_ret (value : α) :
    (ret value : Calls F α).eval exec state = some (value, state) := rfl

@[simp] theorem eval_call (request : F γ) (next : γ → Calls F α) :
    (call request next).eval exec state =
      (exec request state).bind fun result => (next result.1).eval exec result.2 := rfl

@[simp] theorem eval_perform (request : F α) :
    (perform request).eval exec state = exec request state := by
  rw [perform, eval_call]
  cases exec request state <;> rfl

@[simp] theorem eval_bind (program : Calls F α) (cont : α → Calls F β) :
    (program >>= cont).eval exec state =
      (program.eval exec state).bind fun result => (cont result.1).eval exec result.2 := by
  induction program generalizing state with
  | ret value => rfl
  | call request next ih =>
    rw [call_bind, eval_call, eval_call, Option.bind_assoc]
    exact congrArg _ (funext fun result => ih result.1 result.2)

end Eval

/-- A run against a state has a log. -/
theorem answers_of_eval {exec : ∀ {β : Type}, F β → σ → Option (β × σ)} {program : Calls F α}
    {state after : σ} {value : α} (ran : program.eval exec state = some (value, after)) :
    ∃ log, program.Answers log value := by
  induction program generalizing state with
  | ret other =>
    obtain ⟨rfl, -⟩ := Prod.mk.inj (Option.some.inj ran)
    exact ⟨[], .ret _⟩
  | call request next ih =>
    rw [eval_call] at ran
    obtain ⟨⟨answer, middle⟩, -, rest⟩ := Option.bind_eq_some_iff.mp ran
    obtain ⟨log, answers⟩ := ih answer rest
    exact ⟨log ++ [⟨request, answer⟩], .call answers⟩

/-! ### Complete runs

What a program does when nothing comes in between: it runs to its end, and the
value and the state it ends with are right. -/

/-- The program ends when it runs from `state`, with a value and in a state that
`post` holds of. -/
def Ends (exec : ∀ {β : Type}, F β → σ → Option (β × σ)) (post : α → σ → Prop)
    (program : Calls F α) (state : σ) : Prop :=
  ∃ value after, program.eval exec state = some (value, after) ∧ post value after

section Ends

variable {exec : ∀ {β : Type}, F β → σ → Option (β × σ)} {state : σ} {post : α → σ → Prop}

@[simp] theorem ends_ret {value : α} :
    Ends exec post (ret value : Calls F α) state ↔ post value state := by
  constructor
  · rintro ⟨_, _, ran, holds⟩
    obtain ⟨rfl, rfl⟩ := Prod.mk.inj (Option.some.inj ran)
    exact holds
  · intro holds
    exact ⟨value, state, rfl, holds⟩

/-- A call ends when it does not have to wait and the rest ends. -/
theorem ends_call {request : F γ} {next : γ → Calls F α} :
    Ends exec post (call request next) state ↔
      ∃ answer after, exec request state = some (answer, after) ∧
        Ends exec post (next answer) after := by
  simp only [Ends, eval_call, Option.bind_eq_some_iff, Prod.exists]
  constructor
  · rintro ⟨value, last, ⟨answer, after, ran, rest⟩, holds⟩
    exact ⟨answer, after, ran, value, last, rest, holds⟩
  · rintro ⟨answer, after, ran, value, last, rest, holds⟩
    exact ⟨value, last, ⟨answer, after, ran, rest⟩, holds⟩

/-- Programs in sequence: the first ends where the second can run to its end. -/
theorem ends_bind {program : Calls F α} {cont : α → Calls F β} {post : β → σ → Prop} :
    Ends exec post (program >>= cont) state ↔
      Ends exec (fun value after => Ends exec post (cont value) after) program state := by
  simp only [Ends, eval_bind, Option.bind_eq_some_iff, Prod.exists]
  constructor
  · rintro ⟨value, last, ⟨middle, after, ran, rest⟩, holds⟩
    exact ⟨middle, after, ran, value, last, rest, holds⟩
  · rintro ⟨middle, after, ran, value, last, rest, holds⟩
    exact ⟨value, last, ⟨middle, after, ran, rest⟩, holds⟩

/-- A program in sequence after one whose run is known. -/
theorem Ends.after {program : Calls F α} {cont : α → Calls F β} {post : β → σ → Prop}
    {value : α} {middle : σ} (ran : program.eval exec state = some (value, middle))
    (rest : Ends exec post (cont value) middle) : Ends exec post (program >>= cont) state :=
  ends_bind.mpr ⟨value, middle, ran, rest⟩

/-- A program in sequence after one that ends well. -/
theorem Ends.andThen {program : Calls F α} {cont : α → Calls F β} {post : β → σ → Prop}
    {middle : α → σ → Prop} (first : Ends exec middle program state)
    (rest : ∀ value after, middle value after → Ends exec post (cont value) after) :
    Ends exec post (program >>= cont) state := by
  obtain ⟨value, after, ran, holds⟩ := first
  exact .after ran (rest value after holds)

theorem Ends.mono {post' : α → σ → Prop} {program : Calls F α}
    (ends : Ends exec post program state)
    (implies : ∀ value after, post value after → post' value after) :
    Ends exec post' program state := by
  obtain ⟨value, after, ran, holds⟩ := ends
  exact ⟨value, after, ran, implies value after holds⟩

/-- The run that a program's contract speaks of is the run it makes. -/
theorem Ends.of_eval {program : Calls F α} (ends : Ends exec post program state) {value : α}
    {after : σ} (ran : program.eval exec state = some (value, after)) : post value after := by
  obtain ⟨value', after', ran', holds⟩ := ends
  obtain ⟨rfl, rfl⟩ := Prod.mk.inj (Option.some.inj (ran'.symm.trans ran))
  exact holds

end Ends

end Calls

end ClusterChat
