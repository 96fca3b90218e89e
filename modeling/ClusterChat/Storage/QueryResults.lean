/-
# Results of queries

A query on a connection leaves a result set, which the program reads row by row and has to free
before it uses the connection for anything else. The operations of the models are written here
with these calls; without them they are the operations of the module before.
-/

import ClusterChat.Storage.Models

namespace ClusterChat

open Calls JsonGrammar

/-- `MYSQL_RES`, with the rows that are going to be fetched from it. -/
structure ResultSet where
  id : ℕ
  rows : List SqlRow

/-- What a query of the models does. A row that is fetched is the next one of its result. -/
inductive ResultCall : Type → Type
  | getConnection : ResultCall ℕ
  | giveBack (conn : ℕ) : ResultCall Unit
  | query (conn : ℕ) (sql : Bytes) : ResultCall (Option ResultSet)
  | fetchRow (res : ℕ) : ResultCall Unit
  | freeResult (res : ℕ) : ResultCall Unit

namespace QueryResults

/-- The connection of one function, which every way out gives back. -/
def holding {α : Type} (body : ℕ → Calls ResultCall α) : Calls ResultCall α := do
  let conn ← perform .getConnection
  let value ← body conn
  perform (.giveBack conn)
  return value

/-- The loop over the rows of a result: one row is fetched before it, and one at the end of each
turn, until there is none. -/
def fetchRows (res : ℕ) : List SqlRow → Calls ResultCall Unit
  | [] => perform (.fetchRow res)
  | _ :: rest => do
    perform (.fetchRow res)
    fetchRows res rest

/-- A query, the loop over its rows, and the release of its result. -/
def readRows (conn : ℕ) (sql : Bytes) : Calls ResultCall (List SqlRow) := do
  match ← perform (.query conn (Models.snprintf 1024 sql)) with
  | none => return []
  | some res =>
    fetchRows res.id res.rows
    perform (.freeResult res.id)
    return res.rows

/-- What `UserModel::query` makes of the answer: the result is freed only where it has a row. -/
def readUser : Option ResultSet → Calls ResultCall User
  | none => return .default
  | some ⟨res, []⟩ => do
    perform (.fetchRow res)
    return .default
  | some ⟨res, row :: rest⟩ => do
    perform (.fetchRow res)
    perform (.freeResult res)
    return Models.UserModel.firstUser (row :: rest)

/-- `UserModel::query`. -/
def queryUser (id : UserId) : Calls ResultCall User :=
  holding fun conn => do
    readUser (← perform (.query conn (Models.snprintf 1024 (Models.UserModel.selectFrom ++
      Models.decimal id))))

/-- `FriendModel::query`. -/
def queryFriends (userId : UserId) : Calls ResultCall (List User) :=
  holding fun conn => do
    let rows ← readRows conn (letters "select u.id, u.name, u.state from friend f join user u " ++
      letters "on f.friendid = u.id where f.userid = " ++ Models.decimal userId)
    return rows.map fun row => ⟨Models.readId row 0, row 1, [], row 2⟩

/-- The second part of `GroupModel::queryGroups`: a query for each group. -/
def queryMembers (conn : ℕ) : List SqlRow → Calls ResultCall (List Group)
  | [] => return []
  | row :: rest => do
    let users ← readRows conn
      (Models.GroupModel.selectUsers ++ Models.decimal (Models.readId row 0))
    let groups ← queryMembers conn rest
    return ⟨Models.readId row 0, row 1, row 2,
      users.map fun user => ⟨⟨Models.readId user 0, user 1, [], user 2⟩, user 3⟩⟩ :: groups

/-- `GroupModel::queryGroups`. -/
def queryGroups (userid : UserId) : Calls ResultCall (List Group) :=
  holding fun conn => do
    queryMembers conn (← readRows conn (Models.GroupModel.selectFrom ++ Models.decimal userid))

/-- `GroupModel::queryGroupUsers`. -/
def queryGroupUsers (userid : UserId) (groupid : Int32) : Calls ResultCall (List UserId) :=
  holding fun conn => do
    let rows ← readRows conn (letters "select userid from groupuser where groupid = " ++
      Models.decimal groupid ++ letters " and userid != " ++ Models.decimal userid)
    return rows.map fun row => Models.readId row 0

/-- `OfflineMsgModel::query`. -/
def queryOffline (userid : UserId) : Calls ResultCall (List CString) :=
  holding fun conn => do
    let rows ← readRows conn (Models.OfflineMsgModel.selectText userid)
    return rows.map fun row => row 0

/-! ### Without the result sets -/

/-- The same program where the rows of a query are its answer. -/
def forget {α : Type} : Calls ResultCall α → Calls PoolCall α
  | .ret value => .ret value
  | .call .getConnection next => .call .getConnection fun conn => forget (next conn)
  | .call (.giveBack conn) next => .call (.giveBack conn) fun _ => forget (next ())
  | .call (.query conn sql) next => .call (.query conn sql) fun rows =>
      forget (next (rows.map fun rows => ⟨0, rows⟩))
  | .call (.fetchRow _) next => forget (next ())
  | .call (.freeResult _) next => forget (next ())

variable {α β : Type}

theorem forget_bind (program : Calls ResultCall α) (cont : α → Calls ResultCall β) :
    forget (program >>= cont) = forget program >>= fun value => forget (cont value) := by
  induction program with
  | ret value => rfl
  | call request next ih =>
    cases request with
    | getConnection => exact congrArg (Calls.call _) (funext fun conn => ih conn)
    | giveBack conn => exact congrArg (Calls.call _) (funext fun _ => ih ())
    | query conn sql => exact congrArg (Calls.call _) (funext fun rows => ih _)
    | fetchRow res => exact ih ()
    | freeResult res => exact ih ()

theorem forget_holding (body : ℕ → Calls ResultCall α) :
    forget (holding body) = withConnection fun conn => forget (body conn) := by
  refine congrArg (Calls.call _) (funext fun conn => ?_)
  exact forget_bind (body conn) _

theorem forget_fetchRows (res : ℕ) (rows : List SqlRow) :
    forget (fetchRows res rows) = .ret () := by
  induction rows with
  | nil => rfl
  | cons row rest ih => exact ih

theorem forget_readRows (conn : ℕ) (sql : Bytes) :
    forget (readRows conn sql) = Models.runQuery conn sql := by
  refine congrArg (Calls.call _) (funext fun rows => ?_)
  cases rows with
  | none => rfl
  | some rows =>
    change forget (fetchRows 0 rows >>= _) = _
    rw [forget_bind, forget_fetchRows]
    rfl

theorem forget_queryMembers (conn : ℕ) (rows : List SqlRow) :
    forget (queryMembers conn rows) = Models.GroupModel.queryMembers conn rows := by
  induction rows with
  | nil => rfl
  | cons row rest ih =>
    rw [queryMembers, Models.GroupModel.queryMembers, forget_bind, forget_readRows]
    refine congrArg (_ >>= ·) (funext fun users => ?_)
    rw [forget_bind, ih]
    rfl

/-- A query that makes something of its rows. -/
theorem forget_query (conn : ℕ) (sql : Bytes) (make : List SqlRow → α) :
    forget (do return make (← readRows conn sql)) =
      (do return make (← Models.runQuery conn sql)) := by
  rw [forget_bind, forget_readRows]
  rfl

/-- **The operations are those of the models.** -/
theorem forget_operations (userid : UserId) (groupid : Int32) :
    forget (queryUser userid) = Models.UserModel.query userid ∧
      forget (queryFriends userid) = Models.FriendModel.query userid ∧
      forget (queryGroups userid) = Models.GroupModel.queryGroups userid ∧
      forget (queryGroupUsers userid groupid) = Models.GroupModel.queryGroupUsers userid groupid ∧
      forget (queryOffline userid) = Models.OfflineMsgModel.query userid := by
  refine ⟨?_, ?_, ?_, ?_, ?_⟩
  · rw [queryUser, forget_holding]
    refine congrArg withConnection (funext fun conn => ?_)
    refine congrArg (Calls.call _) (funext fun rows => ?_)
    cases rows with
    | none => rfl
    | some rows => cases rows <;> rfl
  · rw [queryFriends, forget_holding]
    exact congrArg withConnection (funext fun conn => forget_query conn _ _)
  · rw [queryGroups, forget_holding]
    refine congrArg withConnection (funext fun conn => ?_)
    rw [forget_bind, forget_readRows]
    exact congrArg (_ >>= ·) (funext fun rows => forget_queryMembers conn rows)
  · rw [queryGroupUsers, forget_holding]
    exact congrArg withConnection (funext fun conn => forget_query conn _ _)
  · rw [queryOffline, forget_holding]
    exact congrArg withConnection (funext fun conn => forget_query conn _ _)

/-! ### Results that are freed -/

/-- The results that are not freed yet, after an event. -/
def track (opened : List ℕ) : Event ResultCall → List ℕ
  | ⟨.query _ _, some res⟩ => res.id :: opened
  | ⟨.freeResult res, _⟩ => opened.erase res
  | _ => opened

/-- A connection with a result that is not freed may neither be used nor given back; a row is
fetched from a result, and a result is freed, before it is freed. -/
def Permits (opened : List ℕ) : ⦃β : Type⦄ → ResultCall β → Prop
  | _, .getConnection => opened = []
  | _, .giveBack _ => opened = []
  | _, .query _ _ => opened = []
  | _, .fetchRow res => res ∈ opened
  | _, .freeResult res => res ∈ opened

/-- Each result of the run was freed once, before the next statement and before the connection
was given back. -/
def Releases (log : List (Event ResultCall)) : Prop :=
  Calls.Kept track Permits [] log ∧ ghostAfter track [] log = []

/-- A program that leaves no result behind. -/
abbrev Frees (program : Calls ResultCall α) : Prop :=
  program.Follows track Permits (fun opened _ => opened = []) []

theorem Frees.releases {program : Calls ResultCall α} {log : List (Event ResultCall)} {value : α}
    (frees : Frees program) (answers : program.Answers log value) : Releases log :=
  answers.kept frees

theorem Frees.bind {program : Calls ResultCall α} {cont : α → Calls ResultCall β}
    (first : Frees program) (rest : ∀ value, Frees (cont value)) :
    Frees (program >>= cont) := by
  apply first.andThen
  rintro opened value rfl
  exact rest value

theorem frees_ret (value : α) : Frees (.ret value) := rfl

theorem frees_holding {body : ℕ → Calls ResultCall α} (frees : ∀ conn, Frees (body conn)) :
    Frees (holding body) :=
  ⟨rfl, fun conn => (frees conn).bind fun _ => ⟨rfl, fun _ => rfl⟩⟩

/-- The loop fetches from the open result, and leaves it open. -/
theorem fetchRows_follows (res : ℕ) (rows : List SqlRow) :
    (fetchRows res rows).Follows track Permits (fun opened _ => opened = [res]) [res] := by
  induction rows with
  | nil => exact ⟨List.mem_singleton_self res, fun _ => rfl⟩
  | cons row rest ih => exact ⟨List.mem_singleton_self res, fun _ => ih⟩

theorem frees_readRows (conn : ℕ) (sql : Bytes) : Frees (readRows conn sql) := by
  refine ⟨rfl, fun found => ?_⟩
  cases found with
  | none => exact frees_ret []
  | some res =>
    apply (fetchRows_follows res.id res.rows).andThen
    rintro opened _ rfl
    exact ⟨List.mem_singleton_self res.id, fun _ => List.erase_cons_head res.id []⟩

theorem frees_query (sql : Bytes) (make : List SqlRow → α) :
    Frees (holding fun conn => do return make (← readRows conn sql)) :=
  frees_holding fun conn => (frees_readRows conn sql).bind fun rows => frees_ret (make rows)

theorem frees_queryMembers (conn : ℕ) (rows : List SqlRow) : Frees (queryMembers conn rows) := by
  induction rows with
  | nil => exact frees_ret []
  | cons row rest ih =>
    apply (frees_readRows conn _).bind
    intro users
    exact ih.bind fun groups => frees_ret _

/-! ### The query operations -/

inductive QueryOperation
  | user (id : UserId)
  | friends (userId : UserId)
  | groups (userid : UserId)
  | groupUsers (userid : UserId) (groupid : Int32)
  | offline (userid : UserId)

/-- What an operation runs, whatever becomes of its value. -/
def QueryOperation.program : QueryOperation → Calls ResultCall Unit
  | user id => do let _ ← queryUser id
  | friends userId => do let _ ← queryFriends userId
  | groups userid => do let _ ← queryGroups userid
  | groupUsers userid groupid => do let _ ← queryGroupUsers userid groupid
  | offline userid => do let _ ← queryOffline userid

/-- The event is the answer of a query by a result without rows. -/
def EmptyResult : Event ResultCall → Prop
  | ⟨.query _ _, some res⟩ => res.rows = []
  | _ => False

def QueryOperation.IsUser : QueryOperation → Prop
  | user _ => True
  | _ => False

/-- What is left of `UserModel::query` once its statement is answered. -/
def afterAnswer (conn : ℕ) (found : Option ResultSet) : Calls ResultCall Unit := do
  let _ ← readUser found
  perform (.giveBack conn)

/-- No statement is run any more. -/
def AsksNothing : ⦃β : Type⦄ → ResultCall β → Prop
  | _, .query _ _ => False
  | _, _ => True

theorem afterAnswer_asksNothing (conn : ℕ) (found : Option ResultSet) :
    (afterAnswer conn found).Only AsksNothing := by
  cases found with
  | none => exact ⟨trivial, fun _ => trivial⟩
  | some res =>
    obtain ⟨id, rows⟩ := res
    cases rows with
    | nil => exact ⟨trivial, fun _ => ⟨trivial, fun _ => trivial⟩⟩
    | cons row rest => exact ⟨trivial, fun _ => ⟨trivial, fun _ => ⟨trivial, fun _ => trivial⟩⟩⟩

/-- The run up to the answer, and the rest of it. -/
theorem user_answers {id : UserId} {log : List (Event ResultCall)} {value : Unit}
    (answers : (QueryOperation.user id).program.Answers log value) :
    ∃ conn sql found later, (afterAnswer conn found).Answers later value ∧
      log = later ++ [⟨.query conn sql, found⟩, ⟨.getConnection, conn⟩] := by
  obtain ⟨conn, middle, inner, rfl⟩ := answers_call.mp answers
  obtain ⟨found, later, rest, rfl⟩ := answers_call.mp inner
  refine ⟨conn, _, found, later, ?_, List.append_assoc _ _ _⟩
  have same : afterAnswer conn found = (readUser found >>= fun user =>
      .call (.giveBack conn) fun _ => .ret user) >>= fun _ => .ret () := by
    rw [Calls.bind_assoc]
    rfl
  rw [same]
  exact rest

/-- Where the answer is no empty result, it is freed before the connection is given back. -/
theorem afterAnswer_follows (conn : ℕ) {found : Option ResultSet}
    (somebody : ∀ res ∈ found, res.rows ≠ []) :
    (afterAnswer conn found).Follows track Permits (fun opened _ => opened = [])
      (found.toList.map ResultSet.id) := by
  cases found with
  | none => exact ⟨rfl, fun _ => rfl⟩
  | some res =>
    obtain ⟨id, rows⟩ := res
    cases rows with
    | nil => exact absurd rfl (somebody _ rfl)
    | cons row rest =>
      have freed : [id].erase id = [] := List.erase_cons_head id []
      refine ⟨List.mem_singleton_self id, fun _ => ⟨List.mem_singleton_self id, fun _ => ?_⟩⟩
      exact ⟨freed, fun _ => freed⟩

/-- An empty result is still open when the connection is given back. -/
theorem afterAnswer_leaves (conn id : ℕ) {later : List (Event ResultCall)} {value : Unit}
    (rest : (afterAnswer conn (some ⟨id, []⟩)).Answers later value) :
    ¬Calls.Kept track Permits [id] later := by
  obtain ⟨_, middle, inner, rfl⟩ := answers_call.mp rest
  obtain ⟨_, last, final, rfl⟩ := answers_call.mp inner
  obtain ⟨rfl, -⟩ := answers_ret.mp final
  -- the connection is given back with `id` in the list of what is open
  intro kept
  cases kept.2

/-- What is open after the statement. -/
theorem track_answer (conn : ℕ) (sql : Bytes) (found : Option ResultSet) :
    ghostAfter track [] [⟨.query conn sql, found⟩, ⟨.getConnection, conn⟩] =
      found.toList.map ResultSet.id := by
  cases found <;> rfl

/-- `UserModel::query` leaves its result open just if it has no row. -/
theorem user_releases_iff {id : UserId} {log : List (Event ResultCall)} {value : Unit}
    (answers : (QueryOperation.user id).program.Answers log value) :
    Releases log ↔ ¬∃ event ∈ log, EmptyResult event := by
  obtain ⟨conn, sql, found, later, rest, rfl⟩ := user_answers answers
  rw [Releases, kept_append, ghostAfter_append, track_answer]
  by_cases somebody : ∀ res ∈ found, res.rows ≠ []
  · obtain ⟨kept, freed⟩ := rest.kept (afterAnswer_follows conn somebody)
    refine iff_of_true ⟨⟨⟨⟨trivial, rfl⟩, rfl⟩, kept⟩, freed⟩ ?_
    rintro ⟨event, listed, empty⟩
    rcases List.mem_append.mp listed with after | before
    · -- no statement is run after the first one
      have asked := rest.only (afterAnswer_asksNothing conn found) event after
      obtain ⟨request, answer⟩ := event
      cases request with
      | query other text => exact asked
      | _ => exact empty
    · rcases List.mem_pair.mp before with rfl | rfl
      · cases found with
        | none => exact empty
        | some res => exact somebody res rfl empty
      · exact empty
  · push Not at somebody
    obtain ⟨⟨res, rows⟩, rfl, empty⟩ := somebody
    obtain rfl : rows = [] := empty
    refine iff_of_false ?_ ?_
    · rintro ⟨⟨-, kept⟩, -⟩
      exact afterAnswer_leaves conn res rest kept
    · intro none
      exact none ⟨_, List.mem_append_right _ List.mem_cons_self, rfl⟩

/-- **Results are released** before the next statement and before their connection goes back, each
once, in every run of a query operation but the runs of `UserModel::query` in which its statement
returns a result without rows. -/
theorem releases_iff (operation : QueryOperation) {log : List (Event ResultCall)} {value : Unit}
    (answers : operation.program.Answers log value) :
    Releases log ↔ ¬(operation.IsUser ∧ ∃ event ∈ log, EmptyResult event) := by
  cases operation with
  | user id =>
    have same := user_releases_iff answers
    exact same.trans (not_congr ⟨fun found => ⟨trivial, found⟩, fun found => found.2⟩)
  | friends userId =>
    exact iff_of_true (Frees.releases ((frees_query _ _).bind fun _ => frees_ret ()) answers)
      fun found => found.1
  | groups userid =>
    refine iff_of_true (Frees.releases (Frees.bind ?_ fun _ => frees_ret ()) answers)
      fun found => found.1
    exact frees_holding fun conn => (frees_readRows conn _).bind (frees_queryMembers conn)
  | groupUsers userid groupid =>
    exact iff_of_true (Frees.releases ((frees_query _ _).bind fun _ => frees_ret ()) answers)
      fun found => found.1
  | offline userid =>
    exact iff_of_true (Frees.releases ((frees_query _ _).bind fun _ => frees_ret ()) answers)
      fun found => found.1

/-- A database that finds these rows, and has no other result. -/
def found (rows : List SqlRow) : ⦃β : Type⦄ → ResultCall β → β
  | _, .getConnection => 1
  | _, .giveBack _ => ()
  | _, .query _ _ => some ⟨4, rows⟩
  | _, .fetchRow _ => ()
  | _, .freeResult _ => ()

/-- Somebody is found, and the result is freed. -/
theorem releases_iff_found :
    Releases ((QueryOperation.user 7).program.asked (found [fun _ => []])).1 := by
  rw [releases_iff _ (answers_asked _ _)]
  rintro ⟨-, event, listed, empty⟩
  -- of the events, from the last to the first, only the statement could be the empty answer
  rcases listed with _ | ⟨_, _ | ⟨_, _ | ⟨_, _ | ⟨_, _ | ⟨_, ⟨⟩⟩⟩⟩⟩⟩
  all_goals cases empty

/-- Nobody has the id: the empty result is open when the connection goes back to the pool. -/
theorem emptyResult_leaks :
    ¬Releases ((QueryOperation.user 7).program.asked (found [])).1 := by
  intro releases
  -- the last event gives the connection back
  cases releases.1.2

end QueryResults

end ClusterChat
