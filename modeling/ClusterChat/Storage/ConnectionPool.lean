/-
# The pool of database connections

Every operation of a model takes a connection out of the pool, waits where none is idle, and
gives it back where it returns. What the database makes of a statement is left to a server,
which others use as well.
-/

import Mathlib.Data.List.Nodup
import ClusterChat.Concurrency.Pool
import ClusterChat.Data.Bytes

namespace ClusterChat

/-- A row of a result, with its columns as the C strings that the program reads. -/
abbrev SqlRow := ℕ → CString

/-- What a database does on a connection: it runs a statement or refuses it, answers a query
or refuses it, and remembers the id that the last insert on the connection has made. -/
structure SqlServer (δ : Type) where
  update : ℕ → Bytes → δ → Bool × δ
  query : ℕ → Bytes → δ → Option (List SqlRow)
  insertId : ℕ → δ → UInt64

/-- `ConnectionPool`, with all connections that it has made, and the database behind it. -/
structure DatabasePool (δ : Type) where
  connections : List ℕ
  queue : List ℕ
  database : δ

/-- What an operation does. The rows of a result are read to its end. -/
inductive PoolCall : Type → Type
  | getConnection : PoolCall ℕ
  | giveBack (conn : ℕ) : PoolCall Unit
  | update (conn : ℕ) (sql : Bytes) : PoolCall Bool
  | query (conn : ℕ) (sql : Bytes) : PoolCall (Option (List SqlRow))
  | insertId (conn : ℕ) : PoolCall UInt64

namespace DatabasePool

variable {δ : Type}

/-- `ConnectionPool::ConnectionPool`: a connection that cannot be made is left out. -/
def create (maxSize : Int) (connects : ℕ → Bool) (database : δ) : DatabasePool δ where
  connections := (List.range maxSize.toNat).filter connects
  queue := (List.range maxSize.toNat).filter connects
  database := database

/-- The effect of a call. A thread waits for a connection while the queue is empty. -/
def exec (server : SqlServer δ) :
    {β : Type} → PoolCall β → DatabasePool δ → Option (β × DatabasePool δ)
  | _, .getConnection, pool =>
    match pool.queue with
    | [] => none
    | conn :: rest => some (conn, { pool with queue := rest })
  | _, .giveBack conn, pool => some ((), { pool with queue := pool.queue ++ [conn] })
  | _, .update conn sql, pool =>
    let (done, database) := server.update conn sql pool.database
    some (done, { pool with database := database })
  | _, .query conn sql, pool => some (server.query conn sql pool.database, pool)
  | _, .insertId conn, pool => some (server.insertId conn pool.database, pool)

end DatabasePool

/-- `auto conn = ConnectionPool::instance()->getConnection()` and the rest of a function. The
pointer gives the connection back on every way out. -/
def withConnection {α : Type} (body : ℕ → Calls PoolCall α) : Calls PoolCall α := do
  let conn ← Calls.perform .getConnection
  let value ← body conn
  Calls.perform (.giveBack conn)
  return value

/-! ### Borrowing -/

/-- What an event makes of the connections that an operation holds. -/
def borrow (held : List ℕ) : Event PoolCall → List ℕ
  | ⟨.getConnection, conn⟩ => conn :: held
  | ⟨.giveBack conn, _⟩ => held.erase conn
  | _ => held

/-- The connections that an operation has taken and not given back. -/
def borrowed : List (Event PoolCall) → List ℕ
  | [] => []
  | event :: log => borrow (borrowed log) event

/-- An operation takes one connection at a time, and uses and gives back no other. -/
def holdsOne (held : List ℕ) : ⦃β : Type⦄ → PoolCall β → Prop
  | _, .getConnection => held = []
  | _, .giveBack conn => held = [conn]
  | _, .update conn _ => held = [conn]
  | _, .query conn _ => held = [conn]
  | _, .insertId conn => held = [conn]

/-- The program works on one connection. -/
def worksOn (conn : ℕ) : ⦃β : Type⦄ → PoolCall β → Prop
  | _, .getConnection => False
  | _, .giveBack _ => False
  | _, .update conn' _ => conn' = conn
  | _, .query conn' _ => conn' = conn
  | _, .insertId conn' => conn' = conn

/-- A program that borrows one connection at a time, and holds none in the end. -/
abbrev Borrows {α : Type} (program : Calls PoolCall α) (held : List ℕ) : Prop :=
  program.Follows borrow holdsOne (fun held _ => held = []) held

/-- **The pointer of one function**: what works on the connection borrows it alone. -/
theorem borrows_withConnection {α : Type} {body : ℕ → Calls PoolCall α}
    (works : ∀ conn, (body conn).Only (worksOn conn)) : Borrows (withConnection body) [] := by
  refine ⟨rfl, fun conn => ?_⟩
  have inside : (body conn).Follows borrow holdsOne (fun held _ => held = [conn]) [conn] := by
    refine (works conn).follows ?_ ?_ fun _ => rfl
    · intro β request on
      cases request with
      | getConnection => exact on.elim
      | giveBack other => exact on.elim
      | update other sql => exact congrArg (fun c => [c]) (Eq.symm on)
      | query other sql => exact congrArg (fun c => [c]) (Eq.symm on)
      | insertId other => exact congrArg (fun c => [c]) (Eq.symm on)
    · intro β request answer on
      cases request with
      | getConnection => exact on.elim
      | giveBack other => exact on.elim
      | update other sql => rfl
      | query other sql => rfl
      | insertId other => rfl
  refine inside.andThen ?_
  rintro held value rfl
  exact ⟨rfl, fun _ => List.erase_cons_head conn []⟩

/-- The program gives the connection back, whatever is answered, and does not wait before. -/
def GivesBack {α : Type} (conn : ℕ) : Calls PoolCall α → Prop
  | .ret _ => False
  | .call (.giveBack conn') _ => conn' = conn
  | .call .getConnection _ => False
  | .call (.update _ _) next => ∀ answer, GivesBack conn (next answer)
  | .call (.query _ _) next => ∀ answer, GivesBack conn (next answer)
  | .call (.insertId _) next => ∀ answer, GivesBack conn (next answer)

/-- Who holds a connection gives it back. -/
theorem Calls.Follows.givesBack {α : Type} {program : Calls PoolCall α} {conn : ℕ}
    (borrows : Borrows program [conn]) : GivesBack conn program := by
  induction program with
  | ret value => cases borrows
  | call request next ih =>
    obtain ⟨one, rest⟩ := borrows
    cases request with
    | getConnection => cases one
    | giveBack other => exact (List.singleton_inj.mp one).symm
    | update other sql => exact fun answer => ih answer (rest answer)
    | query other sql => exact fun answer => ih answer (rest answer)
    | insertId other => exact fun answer => ih answer (rest answer)

/-! ### Runs with nothing in between -/

section Runs

variable {δ α : Type} {server : SqlServer δ} {pool after : DatabasePool δ}
  {conn : ℕ} {rest : List ℕ}

/-- A program that runs with nothing in between. -/
abbrev runs (server : SqlServer δ) (program : Calls PoolCall α) (pool : DatabasePool δ) :
    Option (α × DatabasePool δ) :=
  program.eval (DatabasePool.exec server) pool

theorem runs_withConnection (queue : pool.queue = conn :: rest) (body : ℕ → Calls PoolCall α) :
    runs server (withConnection body) pool =
      (runs server (body conn) { pool with queue := rest }).map fun result =>
        (result.1, { result.2 with queue := result.2.queue ++ [conn] }) := by
  rw [withConnection]
  simp only [Calls.perform_bind, runs, Calls.eval_call, DatabasePool.exec, queue, Option.bind_some,
    Calls.eval_bind]
  cases (body conn).eval (DatabasePool.exec server) { pool with queue := rest } <;> rfl

/-- Nothing runs where no connection is idle. -/
theorem idle_of_runs {body : ℕ → Calls PoolCall α} {value : α}
    (ran : runs server (withConnection body) pool = some (value, after)) :
    ∃ conn rest, pool.queue = conn :: rest := by
  cases queue : pool.queue with
  | nil =>
    rw [withConnection] at ran
    simp only [Calls.perform_bind, runs, Calls.eval_call, DatabasePool.exec, queue,
      Option.bind_none] at ran
    cases ran
  | cons conn rest => exact ⟨conn, rest, rfl⟩

end Runs

end ClusterChat
