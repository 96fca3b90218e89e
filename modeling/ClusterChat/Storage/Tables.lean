/-
# The database under the models

What is relied on of the database for users and groups: its tables with their keys, how it
reads a row of string literals, and that it runs one statement a call. A statement that is cut
short is refused; an insert makes a new id, or is refused.
-/

import ClusterChat.Data.NumberText
import ClusterChat.Storage.Models
import ClusterChat.Storage.SqlRow

namespace ClusterChat

open JsonGrammar Models SqlLiteral

structure UserRow where
  id : UserId
  name : Bytes
  password : Bytes
  state : Bytes
  deriving DecidableEq

structure GroupEntry where
  id : Int32
  name : Bytes
  desc : Bytes
  deriving DecidableEq

structure MemberRow where
  groupid : Int32
  userid : UserId
  role : Bytes
  deriving DecidableEq

/-- The tables, with the keys of users and groups; members are of groups that there are. -/
structure Tables where
  users : List UserRow
  friends : List (UserId × UserId)
  groups : List GroupEntry
  members : List MemberRow
  offlineMessages : List (UserId × Bytes)
  userKeys : (users.map UserRow.id).Nodup
  groupKeys : (groups.map GroupEntry.id).Nodup
  memberKeys : ∀ member ∈ members, member.groupid ∈ groups.map GroupEntry.id

def UserRow.columns (row : UserRow) : SqlRow
  | 0 => printInt row.id.toInt
  | 1 => column row.name
  | 2 => column row.password
  | 3 => column row.state
  | _ => []

def GroupEntry.columns (row : GroupEntry) : SqlRow
  | 0 => printInt row.id.toInt
  | 1 => column row.name
  | 2 => column row.desc
  | _ => []

/-! ### Who is found -/

/-- What `UserModel::query` returns: a user made of the row with the id, or a fresh user where there
is none and where the query fails. -/
def userAnswer (tables : Tables) (fails : Bool) (id : UserId) : User :=
  UserModel.firstUser
    (if fails then [] else (tables.users.filter fun row => row.id = id).map UserRow.columns)

section Answers

variable {tables : Tables} {fails : Bool} {id : UserId}

theorem userAnswer_fails : userAnswer tables true id = .default := rfl

theorem userAnswer_none (unseen : ∀ row ∈ tables.users, row.id ≠ id) :
    userAnswer tables fails id = .default := by
  have none : tables.users.filter (fun row => row.id = id) = [] := by
    simpa using unseen
  rw [userAnswer, none]
  exact congrArg UserModel.firstUser (ite_self [])

/-- No two users have one id. -/
theorem Tables.user_unique {row row' : UserRow} (listed : row ∈ tables.users)
    (listed' : row' ∈ tables.users) (same : row.id = row'.id) : row = row' :=
  List.inj_on_of_nodup_map tables.userKeys listed listed' same

/-- Each column of the row is cut at its first NUL. -/
theorem userAnswer_row {row : UserRow} (listed : row ∈ tables.users) :
    userAnswer tables false row.id =
      ⟨row.id, column row.name, column row.password, column row.state⟩ := by
  have found : row ∈ tables.users.filter fun other => other.id = row.id := by
    simpa using listed
  rw [userAnswer, if_neg Bool.false_ne_true]
  cases rows : tables.users.filter fun other => other.id = row.id with
  | nil =>
    rw [rows] at found
    cases found
  | cons first rest =>
    have here : first ∈ tables.users.filter fun other => other.id = row.id :=
      rows ▸ List.mem_cons_self
    obtain ⟨listed', same⟩ := List.mem_filter.mp here
    obtain rfl := tables.user_unique listed' listed (of_decide_eq_true same)
    have id : readId first.columns 0 = first.id := readId_printInt rfl
    rw [List.map_cons, UserModel.firstUser, id]
    rfl

end Answers

/-! ### What statements change -/

/-- A user is new, and nothing else. -/
structure AddsUser (before after : Tables) (row : UserRow) : Prop where
  fresh : row.id ∉ before.users.map UserRow.id
  users : after.users = before.users ++ [row]
  friends : after.friends = before.friends
  groups : after.groups = before.groups
  members : after.members = before.members
  offlineMessages : after.offlineMessages = before.offlineMessages

/-- A group is new, and nothing else. -/
structure AddsGroup (before after : Tables) (row : GroupEntry) : Prop where
  fresh : row.id ∉ before.groups.map GroupEntry.id
  groups : after.groups = before.groups ++ [row]
  users : after.users = before.users
  friends : after.friends = before.friends
  members : after.members = before.members
  offlineMessages : after.offlineMessages = before.offlineMessages

/-- A member is new, and nothing else. -/
structure AddsMember (before after : Tables) (row : MemberRow) : Prop where
  members : after.members = before.members ++ [row]
  users : after.users = before.users
  friends : after.friends = before.friends
  groups : after.groups = before.groups
  offlineMessages : after.offlineMessages = before.offlineMessages

section Server

variable {δ : Type}

/-- The database refuses a statement, and nothing changes. -/
def Refuses (server : SqlServer δ) (tables : δ → Tables) (conn : ℕ) (sql : Bytes) (database : δ) :
    Prop :=
  (server.update conn sql database).1 = false ∧
    tables (server.update conn sql database).2 = tables database

/-- **What is relied on.** An insert whose row is of literals, with the closing bracket after
the last, makes a row of their values under a new id, or is refused; where the statement ends
before the bracket it is refused. Queries return the rows as they are. The character set of a
connection, which `MySQL::connect` sets, is taken to leave the bytes alone. -/
structure MySqlTables (server : SqlServer δ) where
  tables : δ → Tables
  insert_user : ∀ (conn : ℕ) (database : δ) {text name password state : Bytes},
    readRow 2 text = some ([name, password, state], letters ")") →
    Refuses server tables conn (UserModel.insertInto ++ text) database ∨
      ((server.update conn (UserModel.insertInto ++ text) database).1 = true ∧
        AddsUser (tables database)
          (tables (server.update conn (UserModel.insertInto ++ text) database).2)
          ⟨newId server conn (UserModel.insertInto ++ text) database, name, password, state⟩)
  cut_user : ∀ (conn : ℕ) (database : δ) {text more : Bytes} {values : List Bytes}, more ≠ [] →
    readRow 2 (text ++ more) = some (values, letters ")") →
    Refuses server tables conn (UserModel.insertInto ++ text) database
  select_user : ∀ (conn : ℕ) (database : δ) (id : UserId),
    server.query conn (UserModel.selectFrom ++ decimal id) database =
      some (((tables database).users.filter fun row => row.id = id).map UserRow.columns)
  insert_group : ∀ (conn : ℕ) (database : δ) {text name desc : Bytes},
    readRow 1 text = some ([name, desc], letters ")") →
    Refuses server tables conn (GroupModel.insertInto ++ text) database ∨
      ((server.update conn (GroupModel.insertInto ++ text) database).1 = true ∧
        AddsGroup (tables database)
          (tables (server.update conn (GroupModel.insertInto ++ text) database).2)
          ⟨newId server conn (GroupModel.insertInto ++ text) database, name, desc⟩)
  cut_group : ∀ (conn : ℕ) (database : δ) {text more : Bytes} {values : List Bytes}, more ≠ [] →
    readRow 1 (text ++ more) = some (values, letters ")") →
    Refuses server tables conn (GroupModel.insertInto ++ text) database
  insert_creator : ∀ (conn : ℕ) (database : δ) (userid : UserId) (groupid : Int32),
    userid ∈ (tables database).users.map UserRow.id →
    groupid ∈ (tables database).groups.map GroupEntry.id →
    (∀ member ∈ (tables database).members, member.groupid ≠ groupid) →
    AddsMember (tables database) (tables (server.update conn
      (GroupModel.memberText userid groupid (letters "creator")) database).2)
      ⟨groupid, userid, letters "creator"⟩
  refuse_creator : ∀ (conn : ℕ) (database : δ) (userid : UserId) (groupid : Int32),
    userid ∉ (tables database).users.map UserRow.id →
    Refuses server tables conn (GroupModel.memberText userid groupid (letters "creator")) database
  select_groups : ∀ (conn : ℕ) (database : δ) (userid : UserId),
    ∃ rows, server.query conn (GroupModel.selectFrom ++ decimal userid) database = some rows ∧
      rows.Perm (((tables database).groups.filter fun group =>
        ∃ member ∈ (tables database).members, member.groupid = group.id ∧
          member.userid = userid).map GroupEntry.columns)

/-- The query of the models answers as the table has the user. -/
theorem query_answers {server : SqlServer δ} (mysql : MySqlTables server) {pool : DatabasePool δ}
    {conn : ℕ} {rest : List ℕ} (queue : pool.queue = conn :: rest) (id : UserId) :
    runs server (UserModel.query id) pool =
      some (userAnswer (mysql.tables pool.database) false id,
        { pool with queue := rest ++ [conn] }) := by
  have fits : (UserModel.selectFrom ++ decimal id).length ≤ 1023 := by
    have front : UserModel.selectFrom.length ≤ 100 := by decide +kernel
    have number := decimal_length id
    rw [List.length_append]
    omega
  have ran : runs server (UserModel.query id) pool = _ :=
    runs_query queue (UserModel.selectFrom ++ decimal id) UserModel.firstUser
  rw [ran, snprintf_of_fits fits, mysql.select_user]
  rfl

/-- A query that fails leaves a fresh user. -/
theorem query_fails {server : SqlServer δ} {pool : DatabasePool δ} {conn : ℕ} {rest : List ℕ}
    (queue : pool.queue = conn :: rest) {id : UserId}
    (failed : server.query conn (snprintf 1024 (UserModel.selectFrom ++ decimal id))
      pool.database = none) (tables : Tables) :
    runs server (UserModel.query id) pool =
      some (userAnswer tables true id, { pool with queue := rest ++ [conn] }) := by
  have ran : runs server (UserModel.query id) pool = _ :=
    runs_query queue (UserModel.selectFrom ++ decimal id) UserModel.firstUser
  rw [ran, failed]
  rfl

end Server

end ClusterChat
