/-
# Registered text

Names, passwords and descriptions come from clients and are pasted into statements. A text
comes back as it was exactly where it has no NUL, no apostrophe, and a backslash only in front
of a wildcard.
-/

import ClusterChat.Storage.Tables

namespace ClusterChat

open JsonGrammar Models SqlLiteral

namespace ChatService

/-- `reg`: the id that it answers with errno 0, if it does. -/
def reg (name pwd : Bytes) : Calls PoolCall (Option UserId) :=
  UserModel.insert name pwd (letters "offline")

/-- `createGroup`, on the tables: the id of the group, if it was made. -/
def createGroup (userid : UserId) (name desc : Bytes) : Calls PoolCall (Option Int32) := do
  match ← GroupModel.createGroup name desc with
  | some groupid =>
    GroupModel.addGroup userid groupid (letters "creator")
    return some groupid
  | none => return none

end ChatService

/-! ### The text of a row -/

/-- The row of `reg`, after its first apostrophe. -/
def userText (name pwd : Bytes) : Bytes :=
  cStr name ++ apostrophe :: (separator ++ (cStr pwd ++ apostrophe :: (separator ++
    letters "offline')")))

/-- The row of `createGroup`. -/
def groupText (name desc : Bytes) : Bytes :=
  cStr name ++ apostrophe :: (separator ++ (cStr desc ++ apostrophe :: letters ")"))

theorem insertText_user (name pwd : Bytes) :
    UserModel.insertText name pwd (letters "offline") =
      UserModel.insertInto ++ userText name pwd := by
  have quote : letters "', '" = apostrophe :: separator := rfl
  have state : cStr (letters "offline") = letters "offline" := by decide
  have closing : letters "offline')" = letters "offline" ++ letters "')" := rfl
  rw [UserModel.insertText, userText, quote, state, closing]
  simp only [List.append_assoc, List.cons_append]

theorem insertText_group (name desc : Bytes) :
    GroupModel.insertText name desc = GroupModel.insertInto ++ groupText name desc := by
  have quote : letters "', '" = apostrophe :: separator := rfl
  have closing : letters "')" = apostrophe :: letters ")" := rfl
  rw [GroupModel.insertText, groupText, quote, closing]
  simp only [List.append_assoc, List.cons_append]

/-- **The text comes back as it was.** -/
def Intact (text : Bytes) : Prop := nul ∉ text ∧ Faithful text

instance (text : Bytes) : Decidable (Intact text) := inferInstanceAs (Decidable (_ ∧ _))

section Text

variable {text value rest after : Bytes} {next : UInt8}

theorem Intact.read (intact : Intact text) (other : next ≠ apostrophe) (rest : Bytes) :
    readLiteral (cStr text ++ apostrophe :: next :: rest) = some (text, next :: rest) := by
  rw [cStr_of_notMem intact.1]
  exact readLiteral_faithful intact.2 other rest

theorem Intact.column (intact : Intact text) : (column text).bytes = text := by
  rw [column_bytes, cStr_of_notMem intact.1]

/-- A text that comes back as it was is intact, and was read to the apostrophe after it. -/
theorem intact_of_column (plain : ¬Special next) (other : next ≠ nul)
    (read : readLiteral (cStr text ++ apostrophe :: next :: rest) = some (value, after))
    (same : (ClusterChat.column value).bytes = text) : Intact text ∧ after = next :: rest := by
  rw [column_bytes] at same
  have noNul : nul ∉ text := same ▸ nul_notMem_cStr value
  rw [cStr_of_notMem noNul] at read
  -- after the text the value has ended, or goes on with a NUL
  have split : value = text ++ value.dropWhile fun c => decide (c ≠ nul) := by
    rw [← same]
    exact (List.takeWhile_append_dropWhile ..).symm
  have stops : (value.dropWhile fun c => decide (c ≠ nul)).head? ≠ some next := by
    intro first
    have not := List.head?_dropWhile_not (fun c => decide (c ≠ nul)) value
    rw [first] at not
    have ended : decide (next ≠ nul) = false := not
    exact of_decide_eq_false ended other
  rw [split] at read
  obtain ⟨faithful, -, ended⟩ := faithful_of_read plain stops read
  exact ⟨⟨noNul, faithful⟩, ended⟩

end Text

/-! ### Users -/

section Users

variable {δ : Type} {server : SqlServer δ} {name pwd : Bytes}

/-- What `reg` promises: the user is found under the id with that name and password, and no
other row has changed. -/
def RegKeeps (mysql : MySqlTables server) (name pwd : Bytes) (pool : DatabasePool δ) : Prop :=
  ∀ id after, runs server (ChatService.reg name pwd) pool = some (some id, after) →
    (∃ user last, runs server (UserModel.query id) after = some (user, last) ∧
      user.id = id ∧ user.name.bytes = name ∧ user.password.bytes = pwd) ∧
    ∃ row : UserRow, row.id = id ∧
      AddsUser (mysql.tables pool.database) (mysql.tables after.database) row

/-- The statement of `reg` is an insert of three literals. -/
def IsUserRow (name pwd : Bytes) : Prop :=
  ∃ values, readRow 2 (userText name pwd) = some (values, letters ")")

theorem userText_read (intact : Intact name) (intact' : Intact pwd) :
    readRow 2 (userText name pwd) = some ([name, pwd, letters "offline"], letters ")") := by
  have last : readRow 0 (letters "offline')") = some ([letters "offline"], letters ")") := by
    decide +kernel
  have second := readRow_more (intact'.read (by decide) _) last
  exact readRow_more (intact.read (by decide) _) second

/-- What a registration has done, whatever the text. -/
theorem reg_adds (mysql : MySqlTables server) {pool after : DatabasePool δ} {values : List Bytes}
    (row : readRow 2 (userText name pwd) = some (values, letters ")")) {id : UserId}
    (ran : runs server (ChatService.reg name pwd) pool = some (some id, after)) :
    ∃ n p s, values = [n, p, s] ∧
      AddsUser (mysql.tables pool.database) (mysql.tables after.database) ⟨id, n, p, s⟩ ∧
      ∃ conn rest, after.queue = conn :: rest := by
  obtain ⟨n, rest₁, more₁, -, row₁, rfl⟩ := readRow_succ row
  obtain ⟨p, rest₂, more₂, -, row₂, rfl⟩ := readRow_succ row₁
  obtain ⟨s, -, rfl⟩ := readRow_zero row₂
  obtain ⟨conn, rest, queue, done, rfl, database⟩ := of_runs_runInsert ran
  have front : UserModel.insertInto.length ≤ 1023 := by decide +kernel
  rw [insertText_user] at done database ⊢
  obtain ⟨text, more, sent, whole⟩ := snprintf_front front (userText name pwd)
  rw [sent] at done database ⊢
  refine ⟨n, p, s, rfl, ?_, List.exists_cons_of_ne_nil ?_⟩
  · by_cases cut : more = []
    · rw [cut, List.append_nil] at whole
      rw [← whole] at row
      rcases mysql.insert_user conn pool.database row with refused | ⟨-, adds⟩
      · exact Bool.noConfusion (done.symm.trans refused.1)
      · rw [database]
        exact adds
    · rw [← whole] at row
      have refused := mysql.cut_user conn pool.database cut row
      exact Bool.noConfusion (done.symm.trans refused.1)
  · rw [queue]
    exact List.append_ne_nil_of_right_ne_nil _ (List.cons_ne_nil _ _)

/-- The row of the new user is what a query for the id finds. -/
theorem query_added (mysql : MySqlTables server) {before : Tables} {pool : DatabasePool δ}
    {row : UserRow} (adds : AddsUser before (mysql.tables pool.database) row) {conn : ℕ}
    {rest : List ℕ} (queue : pool.queue = conn :: rest) :
    runs server (UserModel.query row.id) pool =
      some (⟨row.id, column row.name, column row.password, column row.state⟩,
        { pool with queue := rest ++ [conn] }) := by
  have listed : row ∈ (mysql.tables pool.database).users := by
    rw [adds.users]
    exact List.mem_append_right _ (List.mem_singleton_self row)
  rw [query_answers mysql queue, userAnswer_row listed]

/-- **Registered text comes back unchanged where it is intact.** -/
theorem regKeeps_of_intact (mysql : MySqlTables server) (intact : Intact name)
    (intact' : Intact pwd) (pool : DatabasePool δ) : RegKeeps mysql name pwd pool := by
  intro id after ran
  obtain ⟨n, p, s, same, adds, conn, rest, queue⟩ :=
    reg_adds mysql (userText_read intact intact') ran
  obtain ⟨rfl, more⟩ := List.cons.inj same
  obtain ⟨rfl, -⟩ := List.cons.inj more
  have found := query_added mysql adds queue
  exact ⟨⟨_, _, found, rfl, intact.column, intact'.column⟩, _, rfl, adds⟩

/-- And only there, as far as the statement is an insert of three literals. -/
theorem intact_of_regKeeps (mysql : MySqlTables server) {pool after : DatabasePool δ} {id : UserId}
    (row : IsUserRow name pwd)
    (ran : runs server (ChatService.reg name pwd) pool = some (some id, after))
    (keeps : RegKeeps mysql name pwd pool) : Intact name ∧ Intact pwd := by
  obtain ⟨values, row⟩ := row
  obtain ⟨n, p, s, rfl, adds, conn, rest, queue⟩ := reg_adds mysql row ran
  obtain ⟨⟨user, last, found, -, name_, pwd_⟩, -⟩ := keeps id after ran
  rw [query_added mysql adds queue] at found
  obtain ⟨rfl, -⟩ := Prod.mk.inj (Option.some.inj found)
  obtain ⟨n', rest₁, more₁, read₁, row₁, same₁⟩ := readRow_succ row
  obtain ⟨p', rest₂, more₂, read₂, -, same₂⟩ := readRow_succ row₁
  obtain ⟨rfl, rfl⟩ := List.cons.inj same₁
  obtain ⟨rfl, -⟩ := List.cons.inj same₂
  have comma : ¬Special 44 := by decide
  obtain ⟨first, ended⟩ := intact_of_column comma (by decide) read₁ name_
  -- the second literal begins where the first has ended
  have second : rest₁ = cStr pwd ++ apostrophe :: (separator ++ letters "offline')") :=
    List.append_cancel_left ended
  rw [second] at read₂
  obtain ⟨last_, -⟩ := intact_of_column comma (by decide) read₂ pwd_
  exact ⟨first, last_⟩

end Users

/-! ### Groups -/

section Groups

variable {δ : Type} {server : SqlServer δ} {name desc : Bytes} {userid : UserId}

/-- What `createGroup` promises: the group is listed for its creator, with that name and
description. -/
def GroupKeeps (server : SqlServer δ) (userid : UserId) (name desc : Bytes)
    (pool : DatabasePool δ) : Prop :=
  ∀ id after, runs server (ChatService.createGroup userid name desc) pool = some (some id, after) →
    ∃ groups last, runs server (GroupModel.queryGroups userid) after = some (groups, last) ∧
      ∃ group ∈ groups, group.id = id ∧ group.name.bytes = name ∧ group.desc.bytes = desc

/-- The statement of `createGroup` is an insert of two literals. -/
def IsGroupRow (name desc : Bytes) : Prop :=
  ∃ values, readRow 1 (groupText name desc) = some (values, letters ")")

/-- The creator is a user. -/
def HasUser (mysql : MySqlTables server) (userid : UserId) (pool : DatabasePool δ) : Prop :=
  userid ∈ (mysql.tables pool.database).users.map UserRow.id

theorem groupText_read (intact : Intact name) (intact' : Intact desc) :
    readRow 1 (groupText name desc) = some ([name, desc], letters ")") :=
  readRow_more (intact.read (by decide) _) (readRow_one (intact'.read (by decide) []))

/-- The group that `GroupModel::createGroup` has made, whatever the text. -/
theorem createGroup_adds (mysql : MySqlTables server) {pool after : DatabasePool δ}
    {values : List Bytes} (row : readRow 1 (groupText name desc) = some (values, letters ")"))
    {id : Int32}
    (ran : runs server (GroupModel.createGroup name desc) pool = some (some id, after)) :
    ∃ n d, values = [n, d] ∧
      AddsGroup (mysql.tables pool.database) (mysql.tables after.database) ⟨id, n, d⟩ ∧
      ∃ conn rest, after.queue = conn :: rest := by
  obtain ⟨n, rest₁, more₁, -, row₁, rfl⟩ := readRow_succ row
  obtain ⟨d, -, rfl⟩ := readRow_zero row₁
  obtain ⟨conn, rest, queue, done, rfl, database⟩ := of_runs_runInsert ran
  have front : GroupModel.insertInto.length ≤ 1023 := by decide +kernel
  rw [insertText_group] at done database ⊢
  obtain ⟨text, more, sent, whole⟩ := snprintf_front front (groupText name desc)
  rw [sent] at done database ⊢
  refine ⟨n, d, rfl, ?_, List.exists_cons_of_ne_nil ?_⟩
  · by_cases cut : more = []
    · rw [cut, List.append_nil] at whole
      rw [← whole] at row
      rcases mysql.insert_group conn pool.database row with refused | ⟨-, adds⟩
      · exact Bool.noConfusion (done.symm.trans refused.1)
      · rw [database]
        exact adds
    · rw [← whole] at row
      have refused := mysql.cut_group conn pool.database cut row
      exact Bool.noConfusion (done.symm.trans refused.1)
  · rw [queue]
    exact List.append_ne_nil_of_right_ne_nil _ (List.cons_ne_nil _ _)

theorem memberText_fits (userid : UserId) (groupid : Int32) :
    (GroupModel.memberText userid groupid (letters "creator")).length ≤ 1023 := by
  have front : GroupModel.insertMember.length ≤ 100 := by decide +kernel
  have between : (letters ", ").length = 2 := by decide
  have quote : (letters ", '").length = 3 := by decide
  have role : (cStr (letters "creator")).length = 7 := by decide
  have closing : (letters "')").length = 2 := by decide
  have first := decimal_length groupid
  have second := decimal_length userid
  rw [GroupModel.memberText]
  simp only [List.length_append, between, quote, role, closing]
  omega

/-- What the whole of `createGroup` has done: the group is made, and its creator is a member
where he is a user. -/
theorem createGroup_joins (mysql : MySqlTables server) {pool after : DatabasePool δ}
    {values : List Bytes} (row : readRow 1 (groupText name desc) = some (values, letters ")"))
    {id : Int32}
    (ran : runs server (ChatService.createGroup userid name desc) pool = some (some id, after)) :
    ∃ n d tables, values = [n, d] ∧
      AddsGroup (mysql.tables pool.database) tables ⟨id, n, d⟩ ∧
      (HasUser mysql userid pool →
        AddsMember tables (mysql.tables after.database) ⟨id, userid, letters "creator"⟩) ∧
      (¬HasUser mysql userid pool → mysql.tables after.database = tables) ∧
      ∃ conn rest, after.queue = conn :: rest := by
  rw [ChatService.createGroup, runs, Calls.eval_bind] at ran
  have parts := Option.bind_eq_some_iff.mp ran
  clear ran
  obtain ⟨⟨answer, middle⟩, made, ran⟩ := parts
  cases answer with
  | none => cases (Prod.mk.inj (Option.some.inj ran)).1
  | some groupid =>
    obtain ⟨n, d, rfl, adds, conn, rest, queue⟩ := createGroup_adds mysql row made
    dsimp only at ran
    rw [Calls.eval_bind] at ran
    have joined : runs server
        (runUpdate (GroupModel.memberText userid groupid (letters "creator"))) middle = _ :=
      runs_runUpdate queue _
    rw [snprintf_of_fits (memberText_fits userid groupid), runs] at joined
    rw [GroupModel.addGroup, joined] at ran
    obtain ⟨answer, rfl⟩ := Prod.mk.inj (Option.some.inj ran)
    obtain rfl := Option.some.inj answer
    have users : (mysql.tables middle.database).users = (mysql.tables pool.database).users :=
      adds.users
    refine ⟨n, d, _, rfl, adds, fun known => ?_, fun unknown => ?_, ?_⟩
    · rw [HasUser, ← users] at known
      refine mysql.insert_creator conn middle.database userid groupid known ?_ ?_
      · rw [adds.groups, List.map_append]
        exact List.mem_append_right _ (List.mem_singleton.mpr rfl)
      · -- the group is new, so it has no members
        intro member listed same
        rw [adds.members] at listed
        have old := (mysql.tables pool.database).memberKeys member listed
        rw [same] at old
        exact adds.fresh old
    · rw [HasUser, ← users] at unknown
      exact (mysql.refuse_creator conn middle.database userid groupid unknown).2
    · exact List.exists_cons_of_ne_nil
        (List.append_ne_nil_of_right_ne_nil rest (List.cons_ne_nil conn []))

/-- The second part of `queryGroups` keeps the groups that the first has found. -/
theorem runs_queryMembers (server : SqlServer δ) (conn : ℕ) (rows : List SqlRow)
    (pool : DatabasePool δ) :
    ∃ groups, runs server (GroupModel.queryMembers conn rows) pool = some (groups, pool) ∧
      groups.map (fun group => (group.id, group.name, group.desc)) =
        rows.map fun row => (readId row 0, row 1, row 2) := by
  induction rows with
  | nil => exact ⟨[], rfl, rfl⟩
  | cons row rest ih =>
    obtain ⟨groups, ran, same⟩ := ih
    simp only [GroupModel.queryMembers, runs, runQuery, Calls.perform_bind, Calls.call_bind,
      Calls.pure_eq, Calls.ret_bind, Calls.eval_call, Calls.eval_bind, Calls.eval_ret,
      DatabasePool.exec, Option.bind_some]
    rw [runs] at ran
    rw [ran]
    refine ⟨_, rfl, ?_⟩
    rw [List.map_cons, List.map_cons, same]

/-- The groups that a user sees are those he is a member of. -/
theorem queryGroups_lists (mysql : MySqlTables server) {pool : DatabasePool δ} {conn : ℕ}
    {rest : List ℕ} (queue : pool.queue = conn :: rest) (userid : UserId) :
    ∃ groups last, runs server (GroupModel.queryGroups userid) pool = some (groups, last) ∧
      ∀ id n d, (∃ group ∈ groups, group.id = id ∧ group.name = n ∧ group.desc = d) ↔
        ∃ entry ∈ (mysql.tables pool.database).groups,
          (∃ member ∈ (mysql.tables pool.database).members, member.groupid = entry.id ∧
            member.userid = userid) ∧ entry.id = id ∧ column entry.name = n ∧
              column entry.desc = d := by
  have fits : (GroupModel.selectFrom ++ decimal userid).length ≤ 1023 := by
    have front : GroupModel.selectFrom.length ≤ 200 := by decide +kernel
    have number := decimal_length userid
    rw [List.length_append]
    omega
  obtain ⟨rows, found, listed⟩ := mysql.select_groups conn pool.database userid
  obtain ⟨groups, ran, same⟩ := runs_queryMembers server conn rows { pool with queue := rest }
  refine ⟨groups, { pool with queue := rest ++ [conn] }, ?_, fun id n d => ?_⟩
  · rw [GroupModel.queryGroups, runs_withConnection queue, runQuery, snprintf_of_fits fits]
    simp only [runs, Calls.perform_bind, Calls.call_bind, Calls.pure_eq, Calls.ret_bind,
      Calls.eval_call, DatabasePool.exec, found, Option.bind_some, Option.getD_some]
    rw [runs] at ran
    rw [ran]
    rfl
  · have seen : (∃ group ∈ groups, group.id = id ∧ group.name = n ∧ group.desc = d) ↔
        (id, n, d) ∈ groups.map fun group => (group.id, group.name, group.desc) := by
      simp only [List.mem_map, Prod.mk.injEq]
    rw [seen, same, List.mem_map]
    constructor
    · rintro ⟨row, member, equal⟩
      obtain ⟨entry, filtered, rfl⟩ := List.mem_map.mp (listed.mem_iff.mp member)
      obtain ⟨inTable, joined⟩ := List.mem_filter.mp filtered
      have key : readId entry.columns 0 = entry.id := readId_printInt rfl
      rw [key] at equal
      obtain ⟨sameId, others⟩ := Prod.mk.inj equal
      obtain ⟨sameName, sameDesc⟩ := Prod.mk.inj others
      exact ⟨entry, inTable, of_decide_eq_true joined, sameId, sameName, sameDesc⟩
    · rintro ⟨entry, inTable, joined, rfl, rfl, rfl⟩
      have key : readId entry.columns 0 = entry.id := readId_printInt rfl
      refine ⟨entry.columns, ?_, by rw [key]; rfl⟩
      refine listed.mem_iff.mpr (List.mem_map.mpr ⟨entry, ?_, rfl⟩)
      exact List.mem_filter.mpr ⟨inTable, decide_eq_true joined⟩

/-- **A group is listed for its creator as it was described** where the text is intact and the
creator is a user. -/
theorem groupKeeps_of_intact (mysql : MySqlTables server) (intact : Intact name)
    (intact' : Intact desc) {pool : DatabasePool δ} (known : HasUser mysql userid pool) :
    GroupKeeps server userid name desc pool := by
  intro id after ran
  obtain ⟨n, d, tables, same, adds, joins, -, conn, rest, queue⟩ :=
    createGroup_joins mysql (groupText_read intact intact') ran
  obtain ⟨rfl, more⟩ := List.cons.inj same
  obtain ⟨rfl, -⟩ := List.cons.inj more
  have joined := joins known
  obtain ⟨groups, last, found, lists⟩ := queryGroups_lists mysql queue userid
  refine ⟨groups, last, found, ?_⟩
  have listed := (lists id (column name) (column desc)).mpr
    ⟨⟨id, name, desc⟩, ?_, ?_, rfl, rfl, rfl⟩
  · obtain ⟨group, member, sameId, sameName, sameDesc⟩ := listed
    rw [← intact.column, ← intact'.column]
    exact ⟨group, member, sameId, congrArg CString.bytes sameName, congrArg CString.bytes sameDesc⟩
  · rw [joined.groups, adds.groups]
    exact List.mem_append_right _ (List.mem_singleton.mpr rfl)
  · refine ⟨⟨id, userid, letters "creator"⟩, ?_, rfl, rfl⟩
    rw [joined.members]
    exact List.mem_append_right _ (List.mem_singleton.mpr rfl)

/-- And only there, as far as the statement is an insert of two literals. -/
theorem intact_of_groupKeeps (mysql : MySqlTables server) {pool after : DatabasePool δ} {id : Int32}
    (row : IsGroupRow name desc)
    (ran : runs server (ChatService.createGroup userid name desc) pool = some (some id, after))
    (keeps : GroupKeeps server userid name desc pool) :
    Intact name ∧ Intact desc ∧ HasUser mysql userid pool := by
  obtain ⟨values, row⟩ := row
  obtain ⟨n, d, tables, rfl, adds, joins, stays, conn, rest, queue⟩ :=
    createGroup_joins mysql row ran
  obtain ⟨groups, last, found, group, member, sameId, name_, desc_⟩ := keeps id after ran
  obtain ⟨groups', last', found', lists⟩ := queryGroups_lists mysql queue userid
  obtain ⟨rfl, rfl⟩ := Prod.mk.inj (Option.some.inj (found'.symm.trans found))
  obtain ⟨entry, inTable, ⟨joined, listed, ofGroup, -⟩, sameEntry, sameName, sameDesc⟩ :=
    (lists id group.name group.desc).mp ⟨group, member, sameId, rfl, rfl⟩
  have known : HasUser mysql userid pool := by
    by_contra unknown
    -- without a new member the new group has none
    rw [stays unknown, adds.members] at listed
    have old := (mysql.tables pool.database).memberKeys joined listed
    rw [ofGroup, sameEntry] at old
    exact adds.fresh old
  have entry_ : entry = ⟨id, n, d⟩ := by
    rw [(joins known).groups, adds.groups] at inTable
    rcases List.mem_append.mp inTable with old | new
    · exact (adds.fresh (List.mem_map.mpr ⟨entry, old, sameEntry⟩)).elim
    · exact List.mem_singleton.mp new
  rw [entry_] at sameName sameDesc
  rw [← sameName] at name_
  rw [← sameDesc] at desc_
  obtain ⟨n', rest₁, more₁, read₁, row₁, same₁⟩ := readRow_succ row
  obtain ⟨d', read₂, same₂⟩ := readRow_zero row₁
  obtain ⟨rfl, rfl⟩ := List.cons.inj same₁
  obtain ⟨rfl, -⟩ := List.cons.inj same₂
  obtain ⟨first, ended⟩ := intact_of_column (by decide) (by decide) read₁ name_
  have second : rest₁ = cStr desc ++ apostrophe :: letters ")" := List.append_cancel_left ended
  rw [second] at read₂
  obtain ⟨last_, -⟩ := intact_of_column (by decide) (by decide) read₂ desc_
  exact ⟨first, last_, known⟩

end Groups

/-- **Registered text comes back unchanged**, a user's name and password and a group's name and
description, where it is intact and the creator of the group is a user. Where the statement is
an insert of plain literals and succeeds, it comes back unchanged nowhere else. -/
theorem registered_keeps_iff {δ : Type} {server : SqlServer δ} (mysql : MySqlTables server)
    (pool : DatabasePool δ) :
    (∀ name pwd, (Intact name ∧ Intact pwd → RegKeeps mysql name pwd pool) ∧
      ∀ id after, IsUserRow name pwd →
        runs server (ChatService.reg name pwd) pool = some (some id, after) →
        (RegKeeps mysql name pwd pool ↔ Intact name ∧ Intact pwd)) ∧
    ∀ userid name desc,
      (Intact name ∧ Intact desc ∧ HasUser mysql userid pool →
        GroupKeeps server userid name desc pool) ∧
      ∀ id after, IsGroupRow name desc →
        runs server (ChatService.createGroup userid name desc) pool = some (some id, after) →
        (GroupKeeps server userid name desc pool ↔
          Intact name ∧ Intact desc ∧ HasUser mysql userid pool) := by
  refine ⟨fun name pwd => ⟨?_, ?_⟩, fun userid name desc => ⟨?_, ?_⟩⟩
  · rintro ⟨intact, intact'⟩
    exact regKeeps_of_intact mysql intact intact' pool
  · intro id after row ran
    constructor
    · exact intact_of_regKeeps mysql row ran
    · rintro ⟨intact, intact'⟩
      exact regKeeps_of_intact mysql intact intact' pool
  · rintro ⟨intact, intact', known⟩
    exact groupKeeps_of_intact mysql intact intact' known
  · intro id after row ran
    constructor
    · exact intact_of_groupKeeps mysql row ran
    · rintro ⟨intact, intact', known⟩
      exact groupKeeps_of_intact mysql intact intact' known

end ClusterChat
