/-
# Connections on loan

Any number of threads do operations of the models over one pool. A connection is in the queue
or on loan to one operation, and an operation that waits for one has none; so as long as
somebody waits there is a connection to be had, or one that is on its way back.
-/

import ClusterChat.Storage.Models

namespace ClusterChat

open Models

/-- What happens on a pool: a thread begins, and others change the database. -/
inductive ModelEvent (δ : Type)
  | run (operations : List Operation)
  | others (database : δ)

/-- A thread that does one operation after the other. -/
def inSequence : List Operation → Calls PoolCall Unit
  | [] => return ()
  | operation :: rest => do
    operation.program
    inSequence rest

/-- Threads that share a pool. -/
def modelSystem {δ : Type} (server : SqlServer δ) :
    ThreadSystem (DatabasePool δ) PoolCall Unit Unit (ModelEvent δ) where
  exec _ _ _ call pool := pool.exec server call
  environment
    | .run operations, pool => some (pool, [((), inSequence operations)])
    | .others database, pool => some ({ pool with database := database }, [])

abbrev ModelPool (δ : Type) := Pool (DatabasePool δ) PoolCall Unit Unit

/-- The thread waits for a connection, or is about to. -/
def Thread.Waits (thread : Thread PoolCall Unit Unit) : Prop :=
  ∃ cont, thread.rest = .call .getConnection cont

theorem inSequence_borrows (operations : List Operation) : Borrows (inSequence operations) [] := by
  induction operations with
  | nil => exact rfl
  | cons operation rest ih =>
    refine operation.borrows.andThen fun held _ none => ?_
    rw [none]
    exact ih

/-- One item of a list in place of another, and what the two bring. -/
theorem flatMap_set_perm {α β : Type*} (parts : α → List β) {items : List α} {index : ℕ} {old : α}
    (found : items[index]? = some old) (new : α) :
    ((items.set index new).flatMap parts ++ parts old).Perm (items.flatMap parts ++ parts new) := by
  induction items generalizing index with
  | nil => cases found
  | cons head rest ih =>
    cases index with
    | zero =>
      obtain rfl := Option.some.inj found
      rw [List.set_cons_zero, List.flatMap_cons, List.flatMap_cons]
      calc parts new ++ rest.flatMap parts ++ parts head
        _ = parts new ++ (rest.flatMap parts ++ parts head) := List.append_assoc ..
        List.Perm _ (rest.flatMap parts ++ parts head ++ parts new) := List.perm_append_comm
        List.Perm _ (parts head ++ rest.flatMap parts ++ parts new) :=
          List.perm_append_comm.append_right _
    | succ index =>
      have tail := ih found
      rw [List.set_cons_succ, List.flatMap_cons, List.flatMap_cons, List.append_assoc,
        List.append_assoc]
      exact tail.append_left (parts head)

section Lends

variable {δ : Type} {server : SqlServer δ} {pool next : ModelPool δ}

/-- What all operations together have on loan. -/
def onLoan (pool : ModelPool δ) : List ℕ := pool.threads.flatMap fun thread => borrowed thread.log

/-- The connections are in the queue or on loan, each of them once, and every operation will
borrow one at a time. -/
structure Lends (pool : ModelPool δ) : Prop where
  programs : ∀ thread ∈ pool.threads, Borrows thread.rest (borrowed thread.log)
  places : (pool.state.queue ++ onLoan pool).Perm pool.state.connections
  distinct : pool.state.connections.Nodup

theorem lends_create (maxSize : Int) (connects : ℕ → Bool) (database : δ) :
    Lends ⟨.create maxSize connects database, []⟩ where
  programs := List.forall_mem_nil _
  places := List.append_nil _ ▸ .refl _
  distinct := List.nodup_range.filter connects

/-- Nothing is added to the pool later, or taken from it. -/
theorem DatabasePool.exec_connections {before after : DatabasePool δ} {β : Type}
    {request : PoolCall β} {answer : β} (ran : before.exec server request = some (answer, after)) :
    after.connections = before.connections := by
  cases request with
  | getConnection =>
    rw [DatabasePool.exec] at ran
    split at ran
    · cases ran
    · rw [← (Prod.mk.inj (Option.some.inj ran)).2]
  | giveBack conn => rw [← (Prod.mk.inj (Option.some.inj ran)).2]
  | update conn sql => rw [← (Prod.mk.inj (Option.some.inj ran)).2]
  | query conn sql => rw [← (Prod.mk.inj (Option.some.inj ran)).2]
  | insertId conn => rw [← (Prod.mk.inj (Option.some.inj ran)).2]

/-- What a call makes of the queue, when the caller's loans are what they should be. -/
theorem DatabasePool.exec_lends {before after : DatabasePool δ} {held : List ℕ} {β : Type}
    {request : PoolCall β} {answer : β} (permitted : holdsOne held request)
    (ran : before.exec server request = some (answer, after)) :
    (after.queue ++ borrow held ⟨request, answer⟩).Perm (before.queue ++ held) := by
  cases request with
  | getConnection =>
    obtain rfl : held = [] := permitted
    rw [DatabasePool.exec] at ran
    split at ran
    · cases ran
    · rename_i conn rest queued
      obtain ⟨rfl, rfl⟩ := Prod.mk.inj (Option.some.inj ran)
      rw [queued, List.append_nil]
      exact List.perm_append_singleton conn rest
  | giveBack conn =>
    obtain rfl : held = [conn] := permitted
    obtain ⟨-, rfl⟩ := Prod.mk.inj (Option.some.inj ran)
    have returned : borrow [conn] ⟨.giveBack conn, answer⟩ = [] := List.erase_cons_head conn []
    rw [returned, List.append_nil]
  | update conn sql =>
    rw [← (Prod.mk.inj (Option.some.inj ran)).2]
    exact .refl _
  | query conn sql =>
    rw [← (Prod.mk.inj (Option.some.inj ran)).2]
    exact .refl _
  | insertId conn =>
    rw [← (Prod.mk.inj (Option.some.inj ran)).2]
    exact .refl _

/-- **Step lemma.** -/
theorem Lends.turn (lends : Lends pool) {label : Turn (ModelEvent δ)}
    (moved : (modelSystem server).turn pool label = some next) : Lends next := by
  have programs : ∀ thread ∈ next.threads, Borrows thread.rest (borrowed thread.log) := by
    refine ThreadSystem.turn_forall_threads lends.programs ?_ ?_ moved
    · intro thread β request cont answer borrows program
      rw [program] at borrows
      exact borrows.2 answer
    · intro event state jobs acted job listed
      cases event with
      | run operations =>
        obtain ⟨-, rfl⟩ := Prod.mk.inj (Option.some.inj acted)
        obtain rfl := List.mem_singleton.mp listed
        exact inSequence_borrows operations
      | others database =>
        obtain ⟨-, rfl⟩ := Prod.mk.inj (Option.some.inj acted)
        cases listed
  rcases ThreadSystem.turn_cases moved with
    ⟨number, thread, β, request, cont, answer, -, found, program, ran, threads⟩ |
    ⟨event, jobs, -, acted, threads⟩
  · have borrows := lends.programs thread (List.mem_of_getElem? found)
    rw [program] at borrows
    have connections := DatabasePool.exec_connections ran
    have queue := DatabasePool.exec_lends borrows.1 ran
    have loans : (onLoan next ++ borrowed thread.log).Perm
        (onLoan pool ++ borrow (borrowed thread.log) ⟨request, answer⟩) := by
      rw [onLoan, threads]
      exact flatMap_set_perm (fun thread => borrowed thread.log) found _
    refine ⟨programs, ?_, connections ▸ lends.distinct⟩
    rw [connections]
    refine List.Perm.trans ?_ lends.places
    -- what the thread had is counted on both sides, and so is what it has now
    apply (List.perm_append_right_iff (borrowed thread.log)).mp
    calc next.state.queue ++ onLoan next ++ borrowed thread.log
      _ = next.state.queue ++ (onLoan next ++ borrowed thread.log) := List.append_assoc ..
      List.Perm _ (next.state.queue ++ (onLoan pool ++
            borrow (borrowed thread.log) ⟨request, answer⟩)) := loans.append_left _
      List.Perm _ (next.state.queue ++ (borrow (borrowed thread.log) ⟨request, answer⟩ ++
            onLoan pool)) := List.perm_append_comm.append_left _
      _ = next.state.queue ++ borrow (borrowed thread.log) ⟨request, answer⟩ ++ onLoan pool :=
        (List.append_assoc ..).symm
      List.Perm _ (pool.state.queue ++ borrowed thread.log ++ onLoan pool) := queue.append_right _
      _ = pool.state.queue ++ (borrowed thread.log ++ onLoan pool) := List.append_assoc ..
      List.Perm _ (pool.state.queue ++ (onLoan pool ++ borrowed thread.log)) :=
        List.perm_append_comm.append_left _
      _ = pool.state.queue ++ onLoan pool ++ borrowed thread.log := (List.append_assoc ..).symm
  · have started : onLoan next = onLoan pool := by
      rw [onLoan, onLoan, threads, List.flatMap_append, List.flatMap_map]
      have none : (jobs.flatMap fun job => borrowed (Thread.start job).log) = [] := by
        rw [List.flatMap_eq_nil_iff]
        intro job _
        exact rfl
      rw [none, List.append_nil]
    have state : next.state.queue = pool.state.queue ∧
        next.state.connections = pool.state.connections := by
      cases event with
      | run operations =>
        rw [← (Prod.mk.inj (Option.some.inj acted)).1]
        exact ⟨rfl, rfl⟩
      | others database =>
        rw [← (Prod.mk.inj (Option.some.inj acted)).1]
        exact ⟨rfl, rfl⟩
    refine ⟨programs, ?_, state.2 ▸ lends.distinct⟩
    rw [started, state.1, state.2]
    exact lends.places

theorem lends_of_reach {maxSize : Int} {connects : ℕ → Bool} {database : δ}
    (reached : (modelSystem server).machine.Reach Machine.anyStep
      ⟨.create maxSize connects database, []⟩ pool) : Lends pool :=
  reached.invariant Lends (lends_create maxSize connects database) fun lends _ moved =>
    lends.turn moved

/-! ### Nobody waits in vain -/

/-- An operation has one connection or none. -/
theorem Calls.Follows.one {program : Calls PoolCall Unit} {held : List ℕ}
    (borrows : Borrows program held) : held = [] ∨ ∃ conn, held = [conn] := by
  cases program with
  | ret value => exact .inl borrows
  | call request cont =>
    have one := borrows.1
    cases request with
    | getConnection => exact .inl one
    | giveBack conn => exact .inr ⟨conn, one⟩
    | update conn sql => exact .inr ⟨conn, one⟩
    | query conn sql => exact .inr ⟨conn, one⟩
    | insertId conn => exact .inr ⟨conn, one⟩

/-- **The pool is sound.** Each connection is in the queue once, or one operation has it and no
other; an operation that waits has none; and where one waits there is a connection in the
queue, or an operation that does not wait has one and gives it back. -/
structure Sound (pool : ModelPool δ) : Prop where
  once : ∀ conn ∈ pool.state.connections,
    (pool.state.queue.count conn = 1 ∧ ∀ thread ∈ pool.threads, conn ∉ borrowed thread.log) ∨
    (conn ∉ pool.state.queue ∧ ∃ number thread, pool.threads[number]? = some thread ∧
      borrowed thread.log = [conn] ∧ ∀ (number' : ℕ) (thread' : Thread PoolCall Unit Unit),
        pool.threads[number']? = some thread' → conn ∈ borrowed thread'.log → number' = number)
  made : ∀ conn, (conn ∈ pool.state.queue ∨ ∃ thread ∈ pool.threads, conn ∈ borrowed thread.log) →
    conn ∈ pool.state.connections
  apart : ∀ thread ∈ pool.threads, thread.Waits → borrowed thread.log = []
  served : (∃ thread ∈ pool.threads, thread.Waits) → pool.state.queue ≠ [] ∨
    ∃ thread ∈ pool.threads, ¬thread.Waits ∧
      ∃ conn, borrowed thread.log = [conn] ∧ GivesBack conn thread.rest

theorem Lends.apart (lends : Lends pool) {thread : Thread PoolCall Unit Unit}
    (member : thread ∈ pool.threads) (waits : thread.Waits) : borrowed thread.log = [] := by
  obtain ⟨cont, program⟩ := waits
  have borrows := lends.programs thread member
  rw [program] at borrows
  exact borrows.1

/-- Who has a connection has no other, and does not wait. -/
theorem Lends.holder (lends : Lends pool) {thread : Thread PoolCall Unit Unit} {conn : ℕ}
    (member : thread ∈ pool.threads) (has : conn ∈ borrowed thread.log) :
    borrowed thread.log = [conn] := by
  rcases (lends.programs thread member).one with none | ⟨other, only⟩
  · rw [none] at has
    cases has
  · rw [only] at has ⊢
    rw [List.mem_singleton.mp has]

theorem Lends.once (lends : Lends pool) {conn : ℕ} (made : conn ∈ pool.state.connections) :
    (pool.state.queue.count conn = 1 ∧ ∀ thread ∈ pool.threads, conn ∉ borrowed thread.log) ∨
    (conn ∉ pool.state.queue ∧ ∃ number thread, pool.threads[number]? = some thread ∧
      borrowed thread.log = [conn] ∧ ∀ (number' : ℕ) (thread' : Thread PoolCall Unit Unit),
        pool.threads[number']? = some thread' → conn ∈ borrowed thread'.log →
          number' = number) := by
  have distinct := lends.places.nodup_iff.mpr lends.distinct
  obtain ⟨queue, loans, apart⟩ := List.nodup_append'.mp distinct
  obtain ⟨-, others⟩ := List.nodup_flatMap.mp loans
  rcases List.mem_append.mp (lends.places.mem_iff.mpr made) with queued | lent
  · refine .inl ⟨List.count_eq_one_of_mem queue queued, fun thread member has => ?_⟩
    exact apart queued (List.mem_flatMap.mpr ⟨thread, member, has⟩)
  · refine .inr ⟨fun queued => apart queued lent, ?_⟩
    obtain ⟨thread, member, has⟩ := List.mem_flatMap.mp lent
    obtain ⟨number, found⟩ := List.mem_iff_getElem?.mp member
    refine ⟨number, thread, found, lends.holder member has, fun number' thread' found' has' => ?_⟩
    -- of two threads that had it one would come first in the pool
    rw [List.pairwise_iff_getElem] at others
    obtain ⟨bound, rfl⟩ := List.getElem?_eq_some_iff.mp found
    obtain ⟨bound', rfl⟩ := List.getElem?_eq_some_iff.mp found'
    rcases Nat.lt_trichotomy number' number with before | same | after
    · exact (others number' number bound' bound before has' has).elim
    · exact same
    · exact (others number number' bound bound' after has has').elim

theorem Lends.sound (lends : Lends pool) (some : pool.state.connections ≠ []) : Sound pool := by
  constructor
  · intro conn made
    exact lends.once made
  · rintro conn (queued | ⟨thread, member, has⟩)
    · exact lends.places.mem_iff.mp (List.mem_append_left _ queued)
    · apply lends.places.mem_iff.mp
      exact List.mem_append_right _ (List.mem_flatMap.mpr ⟨thread, member, has⟩)
  · intro thread member waits
    exact lends.apart member waits
  · rintro -
    by_cases empty : pool.state.queue = []
    · obtain ⟨conn, made⟩ := List.exists_mem_of_ne_nil _ some
      have lent := lends.places.mem_iff.mpr made
      rw [empty, List.nil_append] at lent
      obtain ⟨thread, member, has⟩ := List.mem_flatMap.mp lent
      have only := lends.holder member has
      have borrows := lends.programs thread member
      rw [only] at borrows
      refine .inr ⟨thread, member, fun waits => ?_, conn, only, borrows.givesBack⟩
      rw [lends.apart member waits] at only
      cases only
    · exact .inl empty

/-- The connections are those that the pool began with. -/
theorem connections_of_reach {initial : ModelPool δ}
    (reached : (modelSystem server).machine.Reach Machine.anyStep initial pool) :
    pool.state.connections = initial.state.connections := by
  refine reached.invariant (fun pool => pool.state.connections = initial.state.connections) rfl ?_
  intro pool next label same _ moved
  refine Eq.trans ?_ same
  rcases ThreadSystem.turn_cases moved with
    ⟨number, thread, β, request, cont, answer, -, -, -, ran, -⟩ | ⟨event, jobs, -, acted, -⟩
  · exact DatabasePool.exec_connections ran
  · cases event with
    | run operations => rw [← (Prod.mk.inj (Option.some.inj acted)).1]
    | others database => rw [← (Prod.mk.inj (Option.some.inj acted)).1]

end Lends

/-- **The pool neither doubles nor loses a connection, and does not deadlock**, whatever
operations any number of threads do, if it began with a connection at all. -/
theorem connectionPool_sound {δ : Type} (server : SqlServer δ) (maxSize : Int)
    (connects : ℕ → Bool) (database : δ)
    (started : (DatabasePool.create maxSize connects database).connections ≠ [])
    {pool : ModelPool δ} (reached : (modelSystem server).machine.Reach Machine.anyStep
      ⟨.create maxSize connects database, []⟩ pool) :
    pool.state.connections = (DatabasePool.create maxSize connects database).connections ∧
      Sound pool := by
  have kept := connections_of_reach reached
  refine ⟨kept, (lends_of_reach reached).sound ?_⟩
  rw [kept]
  exact started

/-- An empty database: what is removed is not there, and no query finds anything. -/
def emptyServer : SqlServer Unit where
  update _ _ database := (true, database)
  query _ _ _ := some []
  insertId _ _ := 0

/-- Two threads, and one connection, which the first takes; another could not be made. -/
def oneForTwo : List (Turn (ModelEvent Unit)) :=
  [.environment (.run [.removeOffline 7, .queryOffline 7]), .environment (.run [.queryGroups 8]),
    .thread 0]

theorem connectionPool_sound_oneForTwo :
    ∃ pool : ModelPool Unit, pool.threads.map (fun thread => borrowed thread.log) = [[0], []] ∧
      pool.state.queue = [] ∧
      pool.state.connections = (DatabasePool.create 2 (· = 0) ()).connections ∧ Sound pool := by
  have ran : (((modelSystem emptyServer).machine.run
      ⟨.create 2 (fun conn => decide (conn = 0)) (), []⟩ oneForTwo).any fun pool =>
        decide (pool.threads.map (fun thread => borrowed thread.log) = [[0], []]) &&
          decide (pool.state.queue = [])) = true := by
    decide +kernel
  obtain ⟨pool, ran, facts⟩ := (Option.any_eq_true _ _).mp ran
  obtain ⟨loans, queue⟩ := Bool.and_eq_true_iff.mp facts
  exact ⟨pool, of_decide_eq_true loans, of_decide_eq_true queue,
    connectionPool_sound emptyServer 2 (fun conn => decide (conn = 0)) () (by decide)
      (.of_run .refl (fun _ _ => trivial) ran)⟩

end ClusterChat
