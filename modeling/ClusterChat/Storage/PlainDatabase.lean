/-
# A database that does what is assumed

It runs the statements that the models make and refuses all others.
-/

import ClusterChat.Storage.OfflineMsgModel
import ClusterChat.Storage.Registration

namespace ClusterChat

open JsonGrammar Models OfflineMsgModel SqlLiteral

/-- Its tables, and the id that the last insert has made. -/
structure PlainDatabase where
  tables : Tables
  lastId : Int32

/-- The largest id there is, or zero. -/
def topId (ids : List Int32) : Int := ids.foldr (fun id top => max id.toInt top) 0

theorem le_topId {ids : List Int32} {id : Int32} (listed : id ∈ ids) : id.toInt ≤ topId ids := by
  induction ids with
  | nil => cases listed
  | cons first rest ih =>
    rcases List.mem_cons.mp listed with rfl | later
    · exact Int.le_max_left ..
    · exact (ih later).trans (Int.le_max_right ..)

theorem topId_nonneg (ids : List Int32) : 0 ≤ topId ids := by
  induction ids with
  | nil => exact Int.le_refl 0
  | cons first rest ih => exact ih.trans (Int.le_max_right ..)

/-- `AUTO_INCREMENT`: the next id is a new one. -/
theorem nextId_fresh {ids : List Int32} (room : topId ids + 1 < 2 ^ 31) :
    Int32.ofInt (topId ids + 1) ∉ ids := by
  intro listed
  have above := le_topId listed
  have nonneg := topId_nonneg ids
  rw [Int32.toInt_ofInt_of_le (by omega) room] at above
  omega

namespace Tables

/-- A user under the next id. -/
def addUser (tables : Tables) (name password state : Bytes)
    (room : topId (tables.users.map UserRow.id) + 1 < 2 ^ 31) : Tables :=
  { tables with
    users := tables.users ++
      [⟨.ofInt (topId (tables.users.map UserRow.id) + 1), name, password, state⟩]
    userKeys := by
      rw [List.map_append, List.map_singleton, ← List.concat_eq_append]
      exact tables.userKeys.concat (nextId_fresh room) }

/-- A group under the next id. -/
def addGroup (tables : Tables) (name desc : Bytes)
    (room : topId (tables.groups.map GroupEntry.id) + 1 < 2 ^ 31) : Tables :=
  { tables with
    groups := tables.groups ++
      [⟨.ofInt (topId (tables.groups.map GroupEntry.id) + 1), name, desc⟩]
    groupKeys := by
      rw [List.map_append, List.map_singleton, ← List.concat_eq_append]
      exact tables.groupKeys.concat (nextId_fresh room)
    memberKeys := by
      intro member listed
      rw [List.map_append]
      exact List.mem_append_left _ (tables.memberKeys member listed) }

/-- A member of a group that there is. -/
def addMember (tables : Tables) (row : MemberRow)
    (known : row.groupid ∈ tables.groups.map GroupEntry.id) : Tables :=
  { tables with
    members := tables.members ++ [row]
    memberKeys := by
      intro member listed
      rcases List.mem_append.mp listed with old | new
      · exact tables.memberKeys member old
      · rw [List.mem_singleton.mp new]
        exact known }

end Tables

namespace PlainDatabase

/-- Insert a user whose row was read. -/
def insertUser (database : PlainDatabase) : Option (List Bytes × Bytes) → Bool × PlainDatabase
  | some ([name, password, state], closing) =>
    if room : closing = letters ")" ∧
        topId (database.tables.users.map UserRow.id) + 1 < 2 ^ 31 then
      (true, ⟨database.tables.addUser name password state room.2,
        .ofInt (topId (database.tables.users.map UserRow.id) + 1)⟩)
    else (false, database)
  | _ => (false, database)

/-- Insert a group whose row was read. -/
def insertGroup (database : PlainDatabase) : Option (List Bytes × Bytes) → Bool × PlainDatabase
  | some ([name, desc], closing) =>
    if room : closing = letters ")" ∧
        topId (database.tables.groups.map GroupEntry.id) + 1 < 2 ^ 31 then
      (true, ⟨database.tables.addGroup name desc room.2,
        .ofInt (topId (database.tables.groups.map GroupEntry.id) + 1)⟩)
    else (false, database)
  | _ => (false, database)

/-- Insert a member, if the keys allow it. -/
def insertMember (database : PlainDatabase) (groupid userid : Int32) :
    Option (Bytes × Bytes) → Bool × PlainDatabase
  | some (role, closing) =>
    if known : groupid ∈ database.tables.groups.map GroupEntry.id then
      if closing = letters ")" ∧ userid ∈ database.tables.users.map UserRow.id ∧
          (∀ member ∈ database.tables.members, ¬(member.groupid = groupid ∧
            member.userid = userid)) then
        (true, { database with tables := database.tables.addMember ⟨groupid, userid, role⟩ known })
      else (false, database)
    else (false, database)
  | none => (false, database)

/-- Run one of the inserts. -/
def update (sql : Bytes) (database : PlainDatabase) : Bool × PlainDatabase :=
  if UserModel.insertInto <+: sql then
    database.insertUser (readRow 2 (sql.drop UserModel.insertInto.length))
  else if GroupModel.insertInto <+: sql then
    database.insertGroup (readRow 1 (sql.drop GroupModel.insertInto.length))
  else if GroupModel.insertMember <+: sql then
    let groupid := readInteger (sql.drop GroupModel.insertMember.length)
    let userid := readInteger (groupid.2.drop 2)
    if groupid.2.take 2 = letters ", " ∧ userid.2.take 3 = letters ", '" then
      database.insertMember (.ofInt groupid.1) (.ofInt userid.1) (readLiteral (userid.2.drop 3))
    else (false, database)
  else (false, database)

/-- Answer one of the queries. -/
def query (sql : Bytes) (database : PlainDatabase) : Option (List SqlRow) :=
  if UserModel.selectFrom <+: sql then
    let id := Int32.ofInt (readInteger (sql.drop UserModel.selectFrom.length)).1
    some ((database.tables.users.filter fun row => row.id = id).map UserRow.columns)
  else if GroupModel.selectFrom <+: sql then
    let userid := Int32.ofInt (readInteger (sql.drop GroupModel.selectFrom.length)).1
    some ((database.tables.groups.filter fun group =>
      ∃ member ∈ database.tables.members, member.groupid = group.id ∧
        member.userid = userid).map GroupEntry.columns)
  else none

/-- The server; a session has its last id to itself. -/
def server : SqlServer PlainDatabase where
  update _ sql database := database.update sql
  query _ sql database := database.query sql
  insertId _ database := database.lastId.toUInt32.toUInt64

/-! ### It does what is assumed -/

/-- A statement begins with one of two texts that differ somewhere. -/
theorem not_prefix {front other rest : Bytes} (index : ℕ) (inside : index < front.length)
    (inside' : index < other.length) (differ : front[index]? ≠ other[index]?) :
    ¬front <+: other ++ rest := by
  rintro ⟨more, same⟩
  have here : (front ++ more)[index]? = (other ++ rest)[index]? := by rw [same]
  rw [List.getElem?_append_left inside, List.getElem?_append_left inside'] at here
  exact differ here

theorem user_not_group (rest : Bytes) : ¬UserModel.insertInto <+: GroupModel.insertInto ++ rest :=
  not_prefix 12 (by decide +kernel) (by decide +kernel) (by decide +kernel)

theorem user_not_member (rest : Bytes) :
    ¬UserModel.insertInto <+: GroupModel.insertMember ++ rest :=
  not_prefix 12 (by decide +kernel) (by decide +kernel) (by decide +kernel)

theorem group_not_member (rest : Bytes) :
    ¬GroupModel.insertInto <+: GroupModel.insertMember ++ rest :=
  not_prefix 12 (by decide +kernel) (by decide +kernel) (by decide +kernel)

theorem user_not_groups (rest : Bytes) : ¬UserModel.selectFrom <+: GroupModel.selectFrom ++ rest :=
  not_prefix 7 (by decide +kernel) (by decide +kernel) (by decide +kernel)

theorem update_user (text : Bytes) (database : PlainDatabase) :
    database.update (UserModel.insertInto ++ text) = database.insertUser (readRow 2 text) := by
  rw [update, if_pos (List.prefix_append ..), List.drop_left]

theorem update_group (text : Bytes) (database : PlainDatabase) :
    database.update (GroupModel.insertInto ++ text) = database.insertGroup (readRow 1 text) := by
  rw [update, if_neg (user_not_group text), if_pos (List.prefix_append ..), List.drop_left]

theorem update_creator (userid : UserId) (groupid : Int32) (database : PlainDatabase) :
    database.update (GroupModel.memberText userid groupid (letters "creator")) =
      database.insertMember groupid userid (some (letters "creator", letters ")")) := by
  have stop (text : Bytes) (rest : Bytes) (comma : text.head? = some 44) :
      JsonText.NoDigit (text ++ rest) := by
    intro c first
    cases text with
    | nil => cases comma
    | cons head more =>
      obtain rfl := Option.some.inj comma
      obtain rfl := Option.some.inj first
      rfl
  have shape : GroupModel.memberText userid groupid (letters "creator") =
      GroupModel.insertMember ++ (decimal groupid ++ (letters ", " ++ (decimal userid ++
        (letters ", '" ++ (letters "creator" ++ letters "')"))))) := by
    have role : cStr (letters "creator") = letters "creator" := by decide
    rw [GroupModel.memberText, role]
    simp only [List.append_assoc]
  have first := readInteger_printInt groupid.toInt (stop (letters ", ")
    (decimal userid ++ (letters ", '" ++ (letters "creator" ++ letters "')"))) rfl)
  have second := readInteger_printInt userid.toInt
    (stop (letters ", '") (letters "creator" ++ letters "')") rfl)
  have two {rest : Bytes} : (letters ", " ++ rest).drop 2 = rest ∧
      (letters ", " ++ rest).take 2 = letters ", " := ⟨rfl, rfl⟩
  have three {rest : Bytes} : (letters ", '" ++ rest).drop 3 = rest ∧
      (letters ", '" ++ rest).take 3 = letters ", '" := ⟨rfl, rfl⟩
  have role : readLiteral (letters "creator" ++ letters "')") =
      some (letters "creator", letters ")") := by decide
  rw [shape, update, if_neg (user_not_member _), if_neg (group_not_member _),
    if_pos (List.prefix_append ..), List.drop_left]
  simp only [decimal] at first second ⊢
  simp only [first, two.1, two.2, second, three.1, three.2, role, Int32.ofInt_toInt, and_self,
    if_true]

/-- A row that was cut does not come to the closing bracket. -/
theorem cut_row {count : ℕ} {text more : Bytes} {values values' : List Bytes} (cut : more ≠ [])
    (whole : readRow count (text ++ more) = some (values, letters ")")) :
    readRow count text ≠ some (values', letters ")") := by
  intro row
  have goesOn := readRow_append row (List.cons_ne_nil _ _) more
  have same := (Prod.mk.inj (Option.some.inj (goesOn.symm.trans whole))).2
  exact cut (List.append_right_eq_self.mp same)

theorem refuses_of_eq {conn : ℕ} {sql : Bytes} {database : PlainDatabase}
    (refused : database.update sql = (false, database)) :
    Refuses server tables conn sql database := by
  have result : server.update conn sql database = (false, database) := refused
  rw [Refuses, result]
  exact ⟨rfl, rfl⟩

theorem insertUser_refuses {database : PlainDatabase} {read : Option (List Bytes × Bytes)}
    (cut : ∀ values, read ≠ some (values, letters ")")) :
    database.insertUser read = (false, database) := by
  unfold insertUser
  split
  · rename_i name password state closing
    rw [dif_neg]
    rintro ⟨rfl, -⟩
    exact cut _ rfl
  · rfl

theorem insertGroup_refuses {database : PlainDatabase} {read : Option (List Bytes × Bytes)}
    (cut : ∀ values, read ≠ some (values, letters ")")) :
    database.insertGroup read = (false, database) := by
  unfold insertGroup
  split
  · rename_i name desc closing
    rw [dif_neg]
    rintro ⟨rfl, -⟩
    exact cut _ rfl
  · rfl

/-- The id is the same after its way through the types of the library. -/
theorem insertId_last (conn : ℕ) (database : PlainDatabase) :
    (server.insertId conn database).toUInt32.toInt32 = database.lastId := by
  rw [server, UInt32.toUInt32_toUInt64, Int32.toInt32_toUInt32]

/-- What is relied on holds of it. -/
def mysql : MySqlTables server where
  tables := tables
  insert_user := by
    intro conn database text name password state row
    by_cases room : topId (database.tables.users.map UserRow.id) + 1 < 2 ^ 31
    · have done : server.update conn (UserModel.insertInto ++ text) database =
          (true, ⟨database.tables.addUser name password state room,
            .ofInt (topId (database.tables.users.map UserRow.id) + 1)⟩) := by
        refine (update_user text database).trans ?_
        rw [row]
        exact dif_pos ⟨rfl, room⟩
      refine .inr ?_
      rw [newId, done, insertId_last]
      exact ⟨rfl, nextId_fresh room, rfl, rfl, rfl, rfl, rfl⟩
    · refine .inl (refuses_of_eq ((update_user text database).trans ?_))
      rw [row]
      exact dif_neg fun both => room both.2
  cut_user := by
    intro conn database text more values cut whole
    refine refuses_of_eq ((update_user text database).trans (insertUser_refuses fun values' => ?_))
    exact cut_row cut whole
  select_user := by
    intro conn database id
    have number := readInteger_printInt id.toInt JsonText.noDigit_nil
    rw [List.append_nil] at number
    have result : server.query conn (UserModel.selectFrom ++ decimal id) database =
        database.query (UserModel.selectFrom ++ decimal id) := rfl
    rw [result, query, if_pos (List.prefix_append ..), List.drop_left, decimal, number,
      Int32.ofInt_toInt]
  insert_group := by
    intro conn database text name desc row
    by_cases room : topId (database.tables.groups.map GroupEntry.id) + 1 < 2 ^ 31
    · have done : server.update conn (GroupModel.insertInto ++ text) database =
          (true, ⟨database.tables.addGroup name desc room,
            .ofInt (topId (database.tables.groups.map GroupEntry.id) + 1)⟩) := by
        refine (update_group text database).trans ?_
        rw [row]
        exact dif_pos ⟨rfl, room⟩
      refine .inr ?_
      rw [newId, done, insertId_last]
      exact ⟨rfl, nextId_fresh room, rfl, rfl, rfl, rfl, rfl⟩
    · refine .inl (refuses_of_eq ((update_group text database).trans ?_))
      rw [row]
      exact dif_neg fun both => room both.2
  cut_group := by
    intro conn database text more values cut whole
    refine refuses_of_eq
      ((update_group text database).trans (insertGroup_refuses fun values' => ?_))
    exact cut_row cut whole
  insert_creator := by
    intro conn database userid groupid user group fresh
    have done : server.update conn (GroupModel.memberText userid groupid (letters "creator"))
        database = (true, { database with
          tables := database.tables.addMember ⟨groupid, userid, letters "creator"⟩ group }) := by
      refine (update_creator userid groupid database).trans ((dif_pos group).trans ?_)
      exact if_pos ⟨rfl, user, fun member listed both => fresh member listed both.1⟩
    rw [done]
    exact ⟨rfl, rfl, rfl, rfl, rfl⟩
  refuse_creator := by
    intro conn database userid groupid unknown
    refine refuses_of_eq ((update_creator userid groupid database).trans ?_)
    by_cases group : groupid ∈ database.tables.groups.map GroupEntry.id
    · exact (dif_pos group).trans (if_neg fun all => unknown all.2.1)
    · exact dif_neg group
  select_groups := by
    intro conn database userid
    have number := readInteger_printInt userid.toInt JsonText.noDigit_nil
    rw [List.append_nil] at number
    refine ⟨_, ?_, .refl _⟩
    have result : server.query conn (GroupModel.selectFrom ++ decimal userid) database =
        database.query (GroupModel.selectFrom ++ decimal userid) := rfl
    rw [result, query, if_neg (user_not_groups _), if_pos (List.prefix_append ..), List.drop_left,
      decimal, number, Int32.ofInt_toInt]

end PlainDatabase

/-! ### Texts that come back, and one that does not -/

/-- Two connections, and one user. -/
def oneUser : DatabasePool PlainDatabase where
  connections := [0, 1]
  queue := [0, 1]
  database :=
    { tables :=
        { users := [⟨7, letters "ann", letters "pw", letters "offline"⟩]
          friends := []
          groups := []
          members := []
          offlineMessages := []
          userKeys := List.nodup_singleton 7
          groupKeys := List.nodup_nil
          memberKeys := List.forall_mem_nil _ }
      lastId := 0 }

theorem registered_keeps_iff_oneUser :
    RegKeeps PlainDatabase.mysql (letters "bob") (letters "100\\%") oneUser ∧
      GroupKeeps PlainDatabase.server 7 (letters "team") (letters "all of us") oneUser := by
  have claims := registered_keeps_iff PlainDatabase.mysql oneUser
  refine ⟨(claims.1 _ _).1 (by decide), (claims.2 7 _ _).1 ⟨by decide, by decide, ?_⟩⟩
  exact List.mem_singleton.mpr rfl

/-- A password with a backslash: `a\b` is stored as an `a` and a backspace. -/
theorem backslash_changes :
    ¬RegKeeps PlainDatabase.mysql (letters "bob") (letters "a\\b") oneUser := by
  intro keeps
  have row : IsUserRow (letters "bob") (letters "a\\b") :=
    ⟨[letters "bob", [97, 8], letters "offline"], by decide +kernel⟩
  have ran : ((runs PlainDatabase.server (ChatService.reg (letters "bob") (letters "a\\b"))
      oneUser).any fun result => result.1.isSome) = true := by
    decide +kernel
  obtain ⟨⟨answer, after⟩, ran, done⟩ := (Option.any_eq_true _ _).mp ran
  obtain ⟨id, rfl⟩ := Option.isSome_iff_exists.mp done
  have intact := (intact_of_regKeeps PlainDatabase.mysql row ran keeps).2
  exact absurd intact (by decide)

end ClusterChat
