/-
# The models

The operations of the tables: each writes its statement into a buffer of 1024 bytes, runs it
on a connection of the pool, and makes what it returns of the rows that come back.
-/

import ClusterChat.Data.JsonGrammar
import ClusterChat.Data.NumberText
import ClusterChat.Service.Interface
import ClusterChat.Storage.ConnectionPool

namespace ClusterChat.Models

open Calls JsonGrammar

/-- `char buffer[size]` after `snprintf` of the text. -/
def snprintf (size : ℕ) (text : Bytes) : Bytes := text.take (size - 1)

/-- `%d` of an id. -/
def decimal (id : Int32) : Bytes := (printInt id.toInt).bytes

/-- `atoi(row[column])`, kept in an `int`. -/
def readId (row : SqlRow) (column : ℕ) : Int32 := Int32.ofInt (atoi (row column))

/-- An update of which the result is not looked at. -/
def runUpdate (sql : Bytes) : Calls PoolCall Unit :=
  withConnection fun conn => do
    let _ ← perform (.update conn (snprintf 1024 sql))

/-- A query, with the rows that it returns; there are none where it fails. -/
def runQuery (conn : ℕ) (sql : Bytes) : Calls PoolCall (List SqlRow) := do
  return (← perform (.query conn (snprintf 1024 sql))).getD []

/-- An insert of which the id is asked for. -/
def runInsert (sql : Bytes) : Calls PoolCall (Option Int32) :=
  withConnection fun conn => do
    match ← perform (.update conn (snprintf 1024 sql)) with
    | true => return some (← perform (.insertId conn)).toUInt32.toInt32
    | false => return none

namespace UserModel

@[irreducible] def insertInto : Bytes :=
  letters "insert into user(name, password, state) values('"

@[irreducible] def selectFrom : Bytes := letters "select * from user where id = "

def insertText (name pwd state : Bytes) : Bytes :=
  insertInto ++ cStr name ++ letters "', '" ++ cStr pwd ++ letters "', '" ++ cStr state ++
    letters "')"

/-- `UserModel::insert`: the id of the new user, if it was inserted. -/
def insert (name pwd state : Bytes) : Calls PoolCall (Option UserId) :=
  runInsert (insertText name pwd state)

/-- The user that `query` makes of the first row. -/
def firstUser : List SqlRow → User
  | row :: _ => ⟨readId row 0, row 1, row 2, row 3⟩
  | [] => .default

/-- `UserModel::query`. -/
def query (id : UserId) : Calls PoolCall User :=
  withConnection fun conn => do
    return firstUser (← runQuery conn (selectFrom ++ decimal id))

/-- `UserModel::updateState`. -/
def updateState (id : UserId) (state : Bytes) : Calls PoolCall Bool :=
  withConnection fun conn =>
    perform (.update conn (snprintf 1024
      (letters "update user set state = '" ++ cStr state ++ letters "' where id = '" ++
        decimal id ++
        letters "'")))

/-- `UserModel::resetState`. -/
def resetState : Calls PoolCall Unit :=
  runUpdate (letters "update user set state = 'offline' where state = 'online'")

end UserModel

namespace FriendModel

/-- `FriendModel::insert`. -/
def insert (userId friendId : UserId) : Calls PoolCall Unit :=
  runUpdate (letters "insert into friend values(" ++ decimal userId ++ letters ", " ++
    decimal friendId ++ letters ")")

/-- `FriendModel::query`. -/
def query (userId : UserId) : Calls PoolCall (List User) :=
  withConnection fun conn => do
    let rows ← runQuery conn (letters "select u.id, u.name, u.state from friend f join user u " ++
      letters "on f.friendid = u.id where f.userid = " ++ decimal userId)
    return rows.map fun row => ⟨readId row 0, row 1, [], row 2⟩

end FriendModel

namespace GroupModel

@[irreducible] def insertInto : Bytes :=
  letters "insert into allgroup(groupname, groupdesc) values('"

@[irreducible] def insertMember : Bytes := letters "insert into groupuser values("

@[irreducible] def selectFrom : Bytes :=
  letters "select a.id, a.groupname, a.groupdesc from allgroup a join groupuser g " ++
    letters "on a.id = g.groupid where g.userid = "

@[irreducible] def selectUsers : Bytes :=
  letters "select u.id, u.name, u.state, g.grouprole from user u join groupuser g " ++
    letters "on g.userid = u.id where g.groupid = "

def insertText (name desc : Bytes) : Bytes :=
  insertInto ++ cStr name ++ letters "', '" ++ cStr desc ++ letters "')"

def memberText (userid : UserId) (groupid : Int32) (role : Bytes) : Bytes :=
  insertMember ++ decimal groupid ++ letters ", " ++ decimal userid ++ letters ", '" ++ cStr role ++
    letters "')"

/-- `GroupModel::createGroup`: the id of the new group, if it was inserted. -/
def createGroup (name desc : Bytes) : Calls PoolCall (Option Int32) :=
  runInsert (insertText name desc)

/-- `GroupModel::addGroup`. -/
def addGroup (userid : UserId) (groupid : Int32) (role : Bytes) : Calls PoolCall Unit :=
  runUpdate (memberText userid groupid role)

/-- The second part of `queryGroups`: the users of each group. -/
def queryMembers (conn : ℕ) : List SqlRow → Calls PoolCall (List Group)
  | [] => return []
  | row :: rest => do
    let users ← runQuery conn (selectUsers ++ decimal (readId row 0))
    let groups ← queryMembers conn rest
    return ⟨readId row 0, row 1, row 2,
      users.map fun user => ⟨⟨readId user 0, user 1, [], user 2⟩, user 3⟩⟩ :: groups

/-- `GroupModel::queryGroups`. -/
def queryGroups (userid : UserId) : Calls PoolCall (List Group) :=
  withConnection fun conn => do
    queryMembers conn (← runQuery conn (selectFrom ++ decimal userid))

/-- `GroupModel::queryGroupUsers`. -/
def queryGroupUsers (userid : UserId) (groupid : Int32) : Calls PoolCall (List UserId) :=
  withConnection fun conn => do
    let rows ← runQuery conn (letters "select userid from groupuser where groupid = " ++
      decimal groupid ++ letters " and userid != " ++ decimal userid)
    return rows.map fun row => readId row 0

end GroupModel

namespace OfflineMsgModel

/-- What the formats of the statements begin with. -/
@[irreducible] def insertInto : Bytes := letters "insert into offlinemessage values("

@[irreducible] def selectFrom : Bytes :=
  letters "select message from offlinemessage where userid = "

/-- What the format of `OfflineMsgModel::insert` puts in front of the message. -/
def insertFront (userid : UserId) : Bytes :=
  insertInto ++ decimal userid ++ letters ", '"

/-- The statement of `OfflineMsgModel::insert`, before it goes into the buffer. -/
def insertText (userid : UserId) (msg : Bytes) : Bytes :=
  insertFront userid ++ (cStr msg ++ letters "')")

/-- The statement of `OfflineMsgModel::query`. -/
def selectText (userid : UserId) : Bytes := selectFrom ++ decimal userid

/-- `OfflineMsgModel::insert`. -/
def insert (userid : UserId) (msg : Bytes) : Calls PoolCall Unit :=
  runUpdate (insertText userid msg)

/-- `OfflineMsgModel::remove`. -/
def remove (userid : UserId) : Calls PoolCall Unit :=
  runUpdate (letters "delete from offlinemessage where userid = " ++ decimal userid)

/-- `OfflineMsgModel::query`. -/
def query (userid : UserId) : Calls PoolCall (List CString) :=
  withConnection fun conn => do
    let rows ← runQuery conn (selectText userid)
    return rows.map fun row => row 0

end OfflineMsgModel

/-! ### What the operations run -/

/-- The id that an insert has made, as `setId` keeps it. -/
def newId {δ : Type} (server : SqlServer δ) (conn : ℕ) (sql : Bytes) (database : δ) : Int32 :=
  (server.insertId conn (server.update conn sql database).2).toUInt32.toInt32

section Runs

variable {δ : Type} {server : SqlServer δ} {pool after : DatabasePool δ} {conn : ℕ} {rest : List ℕ}

theorem runs_runUpdate (queue : pool.queue = conn :: rest) (sql : Bytes) :
    runs server (runUpdate sql) pool =
      some ((), { pool with
        queue := rest ++ [conn]
        database := (server.update conn (snprintf 1024 sql) pool.database).2 }) := by
  rw [runUpdate, runs_withConnection queue]
  rfl

theorem runs_runInsert (queue : pool.queue = conn :: rest) (sql : Bytes) :
    runs server (runInsert sql) pool =
      some (if (server.update conn (snprintf 1024 sql) pool.database).1 then
          some (newId server conn (snprintf 1024 sql) pool.database)
        else none,
        { pool with
          queue := rest ++ [conn]
          database := (server.update conn (snprintf 1024 sql) pool.database).2 }) := by
  rw [runInsert, runs_withConnection queue]
  simp only [Calls.perform_bind, runs, Calls.eval_call, DatabasePool.exec, Option.bind_some]
  cases (server.update conn (snprintf 1024 sql) pool.database).1 <;> rfl

/-- A query whose rows are only looked at. -/
theorem runs_query {α : Type} (queue : pool.queue = conn :: rest) (sql : Bytes)
    (make : List SqlRow → α) :
    runs server (withConnection fun conn => do return make (← runQuery conn sql)) pool =
      some (make ((server.query conn (snprintf 1024 sql) pool.database).getD []),
        { pool with queue := rest ++ [conn] }) := by
  rw [runs_withConnection queue]
  rfl

/-- What an insert that succeeded has done. -/
theorem of_runs_runInsert {sql : Bytes} {id : Int32}
    (ran : runs server (runInsert sql) pool = some (some id, after)) :
    ∃ conn rest, after.queue = rest ++ [conn] ∧
      (server.update conn (snprintf 1024 sql) pool.database).1 = true ∧
      id = newId server conn (snprintf 1024 sql) pool.database ∧
      after.database = (server.update conn (snprintf 1024 sql) pool.database).2 := by
  obtain ⟨conn, rest, queue⟩ := idle_of_runs ran
  rw [runs_runInsert queue] at ran
  obtain ⟨answer, rfl⟩ := Prod.mk.inj (Option.some.inj ran)
  split at answer
  · rename_i done
    exact ⟨conn, rest, rfl, done, (Option.some.inj answer).symm, rfl⟩
  · cases answer

/-- A statement that is not cut. -/
theorem snprintf_of_fits {text : Bytes} (fits : text.length ≤ 1023) : snprintf 1024 text = text :=
  List.take_of_length_le fits

/-- Only the end of a statement is cut. -/
theorem snprintf_front {front : Bytes} (fits : front.length ≤ 1023) (row : Bytes) :
    ∃ text more, snprintf 1024 (front ++ row) = front ++ text ∧ text ++ more = row := by
  refine ⟨row.take (1023 - front.length), row.drop (1023 - front.length), ?_,
    List.take_append_drop ..⟩
  rw [snprintf, List.take_append, List.take_of_length_le fits]

theorem decimal_length (id : Int32) : (decimal id).length ≤ 11 := printInt_length id

/-- An id is read back. -/
theorem readId_printInt {row : SqlRow} {column : ℕ} {id : Int32}
    (text : row column = printInt id.toInt) : readId row column = id := by
  rw [readId, text, atoi_printInt, Int32.ofInt_toInt]

end Runs

/-! ### Every operation borrows one connection -/

/-- The operations, with what they are given. -/
inductive Operation
  | insertUser (name pwd state : Bytes)
  | queryUser (id : UserId)
  | updateState (id : UserId) (state : Bytes)
  | resetState
  | insertFriend (userId friendId : UserId)
  | queryFriends (userId : UserId)
  | createGroup (name desc : Bytes)
  | addGroup (userid : UserId) (groupid : Int32) (role : Bytes)
  | queryGroups (userid : UserId)
  | queryGroupUsers (userid : UserId) (groupid : Int32)
  | insertOffline (userid : UserId) (msg : Bytes)
  | removeOffline (userid : UserId)
  | queryOffline (userid : UserId)

/-- What an operation runs, whatever becomes of its result. -/
def Operation.program : Operation → Calls PoolCall Unit
  | insertUser name pwd state => do let _ ← UserModel.insert name pwd state
  | queryUser id => do let _ ← UserModel.query id
  | updateState id state => do let _ ← UserModel.updateState id state
  | resetState => UserModel.resetState
  | insertFriend userId friendId => FriendModel.insert userId friendId
  | queryFriends userId => do let _ ← FriendModel.query userId
  | createGroup name desc => do let _ ← GroupModel.createGroup name desc
  | addGroup userid groupid role => GroupModel.addGroup userid groupid role
  | queryGroups userid => do let _ ← GroupModel.queryGroups userid
  | queryGroupUsers userid groupid => do let _ ← GroupModel.queryGroupUsers userid groupid
  | insertOffline userid msg => OfflineMsgModel.insert userid msg
  | removeOffline userid => OfflineMsgModel.remove userid
  | queryOffline userid => do let _ ← OfflineMsgModel.query userid

theorem runQuery_works (conn : ℕ) (sql : Bytes) : (runQuery conn sql).Only (worksOn conn) :=
  ⟨rfl, fun _ => trivial⟩

theorem borrows_runUpdate (sql : Bytes) : Borrows (runUpdate sql) [] :=
  borrows_withConnection fun _ => ⟨rfl, fun _ => trivial⟩

theorem borrows_runInsert (sql : Bytes) : Borrows (runInsert sql) [] := by
  refine borrows_withConnection fun conn => ⟨rfl, fun done => ?_⟩
  -- the id is asked for on the connection that the statement was run on
  cases done with
  | true => exact ⟨rfl, fun _ => trivial⟩
  | false => exact trivial

theorem queryMembers_works (conn : ℕ) (rows : List SqlRow) :
    (GroupModel.queryMembers conn rows).Only (worksOn conn) := by
  induction rows with
  | nil => exact trivial
  | cons row rest ih =>
    refine (runQuery_works conn _).bind fun users => ?_
    exact ih.bind fun groups => trivial

/-- A query whose rows are only looked at. -/
theorem borrows_query {α : Type} (sql : Bytes) (make : List SqlRow → α) :
    Borrows (withConnection fun conn => do return make (← runQuery conn sql)) [] :=
  borrows_withConnection fun conn => (runQuery_works conn sql).bind fun _ => trivial

theorem Borrows.discard {α : Type} {program : Calls PoolCall α} (borrows : Borrows program []) :
    Borrows (do let _ ← program) [] :=
  borrows.andThen fun _ _ none => none

/-- **Every operation takes one connection and gives it back.** -/
theorem Operation.borrows (operation : Operation) : Borrows operation.program [] := by
  cases operation with
  | insertUser name pwd state => exact Borrows.discard (borrows_runInsert _)
  | queryUser id => exact Borrows.discard (borrows_query _ _)
  | updateState id state =>
    exact Borrows.discard (borrows_withConnection fun _ => ⟨rfl, fun _ => trivial⟩)
  | resetState => exact borrows_runUpdate _
  | insertFriend userId friendId => exact borrows_runUpdate _
  | queryFriends userId => exact Borrows.discard (borrows_query _ _)
  | createGroup name desc => exact Borrows.discard (borrows_runInsert _)
  | addGroup userid groupid role => exact borrows_runUpdate _
  | queryGroups userid =>
    refine Borrows.discard (borrows_withConnection fun conn => ?_)
    exact (runQuery_works conn _).bind fun rows => queryMembers_works conn rows
  | queryGroupUsers userid groupid => exact Borrows.discard (borrows_query _ _)
  | insertOffline userid msg => exact borrows_runUpdate _
  | removeOffline userid => exact borrows_runUpdate _
  | queryOffline userid => exact Borrows.discard (borrows_query _ _)

end ClusterChat.Models
