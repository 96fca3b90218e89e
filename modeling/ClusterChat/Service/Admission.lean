/-
# Who is admitted

`login` asks for the user's row, and admits whoever gave the id and the password it
finds there: it registers the connection, binds the user and answers with no error.
`UserModel::query` returns a fresh `User` where there is no row and where the query
fails, and a fresh `User` has an id and a password of its own. Of a row it returns each
column up to its first NUL.
-/

import ClusterChat.Service.Login
import ClusterChat.Storage.Tables

namespace ClusterChat

open ChatService ServerCall

/-- The database answers for users as its tables have them, or fails to. -/
def AnswersUsers (tables : Tables) (fails : Bool) : ⦃β : Type⦄ → ServerCall β → β → Prop
  | _, .database (.queryUser id), user => user = userAnswer tables fails id
  | _, _, _ => True

/-- The calls by which a login admits: it registers a connection, stores a session or
answers without an error. -/
def Admits : ⦃β : Type⦄ → ServerCall β → Prop
  | _, .service (.addLocalConnection _ _) => True
  | _, .registry (.redis (.command (.setSession _ _))) => True
  | _, .service (.send _ (.loginAck response)) => response.errno = 0
  | _, _ => False

/-- The user table has a row of this id and with this password. -/
def IsUser (tables : Tables) (id : UserId) (pwd : Bytes) : Prop :=
  ∃ row ∈ tables.users, row.id = id ∧ row.password = pwd

/-- The id and the password are those of a fresh user, which is what the query
answers, and no row has them. -/
structure AsFresh (tables : Tables) (fails : Bool) (id : UserId) (pwd : Bytes) : Prop where
  sameId : id = -1
  samePwd : pwd = []
  unseen : fails = true ∨ ∀ row ∈ tables.users, row.id ≠ id
  nobody : ¬IsUser tables id pwd

/-- The password is the part of the user's own in front of a NUL. -/
structure AsCut (tables : Tables) (fails : Bool) (id : UserId) (pwd : Bytes) : Prop where
  answers : fails = false
  cut : ∃ row ∈ tables.users, row.id = id ∧ nul ∈ row.password ∧ pwd = cStr row.password

section Admission

variable {tables : Tables} {fails : Bool} {id : UserId} {pwd : Bytes}

/-! ### What the password is compared with -/

/-- `login` finds the id and the password in what the query has answered. -/
def FitsAnswer (tables : Tables) (fails : Bool) (id : UserId) (pwd : Bytes) : Prop :=
  (userAnswer tables fails id).id = id ∧ (userAnswer tables fails id).password.bytes = pwd

theorem fitsAnswer_default (fresh : userAnswer tables fails id = .default) :
    FitsAnswer tables fails id pwd ↔ id = -1 ∧ pwd = [] := by
  rw [FitsAnswer, fresh]
  exact and_congr eq_comm eq_comm

theorem fitsAnswer_row {row : UserRow} (listed : row ∈ tables.users) (same : row.id = id) :
    FitsAnswer tables false id pwd ↔ cStr row.password = pwd := by
  subst same
  rw [FitsAnswer, userAnswer_row listed, column_bytes]
  exact and_iff_right rfl

/-- What fits is a real user's, a fresh user's, or cut. -/
theorem isUser_of_fits (fits : FitsAnswer tables fails id pwd)
    (notFresh : ¬AsFresh tables fails id pwd) (whole : ¬AsCut tables fails id pwd) :
    IsUser tables id pwd := by
  by_contra nobody
  have seen (unseen : fails = true ∨ ∀ row ∈ tables.users, row.id ≠ id)
      (fresh : userAnswer tables fails id = .default) : False := by
    obtain ⟨sameId, samePwd⟩ := (fitsAnswer_default fresh).mp fits
    exact notFresh ⟨sameId, samePwd, unseen, nobody⟩
  cases fails with
  | true => exact seen (.inl rfl) userAnswer_fails
  | false =>
    by_cases unseen : ∀ row ∈ tables.users, row.id ≠ id
    · exact seen (.inr unseen) (userAnswer_none unseen)
    · push Not at unseen
      obtain ⟨row, listed, same⟩ := unseen
      have samePwd := (fitsAnswer_row listed same).mp fits
      by_cases cut : nul ∈ row.password
      · exact whole ⟨rfl, row, listed, same, cut, samePwd.symm⟩
      · rw [cStr_of_notMem cut] at samePwd
        exact nobody ⟨row, listed, same, samePwd⟩

theorem AsFresh.fits (fresh : AsFresh tables fails id pwd) : FitsAnswer tables fails id pwd := by
  have answered : userAnswer tables fails id = .default := by
    rcases fresh.unseen with rfl | unseen
    · exact userAnswer_fails
    · exact userAnswer_none unseen
  exact (fitsAnswer_default answered).mpr ⟨fresh.sameId, fresh.samePwd⟩

theorem AsCut.fits (cut : AsCut tables fails id pwd) : FitsAnswer tables fails id pwd := by
  obtain ⟨rfl, row, listed, same, -, rfl⟩ := cut
  exact (fitsAnswer_row listed same).mpr rfl

/-- The row of the id has another password then, and is the only one. -/
theorem AsCut.nobody (cut : AsCut tables fails id pwd) : ¬IsUser tables id pwd := by
  obtain ⟨-, row, listed, same, inside, rfl⟩ := cut
  rintro ⟨other, listed', same', samePwd⟩
  obtain rfl := tables.user_unique listed listed' (same.trans same'.symm)
  rw [samePwd] at inside
  exact nul_notMem_cStr _ inside

/-! ### What is asked for -/

theorem admits_not_of_plain ⦃β : Type⦄ (call : ServerCall β) (plain : call.Plain) :
    ¬Admits call := by
  cases call with
  | registry call =>
    cases call with
    | node call => exact id
    | redis call =>
      cases call with
      | client call => exact id
      | command command =>
        cases command with
        | setSession userId value => exact fun _ => plain.elim id fun ⟨_, asked⟩ => asked
        | _ => exact id
  | service call =>
    cases call with
    | addLocalConnection userId conn => exact fun _ => plain
    | send conn outgoing =>
      cases outgoing with
      | loginAck response => exact fun _ => plain
      | chat copy => exact id
    | _ => exact id
  | _ => exact id

/-- From an answer that fits, a login comes to register the connection. -/
theorem registers_of_only {server : Server} {conn : Connection} {user : User}
    (fits : user.id = id ∧ user.password.bytes = pwd) {admitted : Prop}
    (only : (judgeLogin server id pwd conn user none).OnlyUnder (AnswersUsers tables fails)
      fun _ call => Admits call → admitted) : admitted := by
  have enters : (enterLogin server id conn user).OnlyUnder (AnswersUsers tables fails)
      (fun _ call => Admits call → admitted) → admitted := fun entered => entered.1 trivial
  rw [judgeLogin, if_pos fits] at only
  by_cases stale : user.state = online
  · simp only [if_pos stale] at only
    exact enters (only.2 () trivial)
  · simp only [if_neg stale] at only
    exact enters only

/-- **Admission.** Whatever else is answered, a login admits real users with their
passwords only, unless it is asked for a fresh user, or with a password that a NUL follows
in the user's own. -/
theorem login_admits_iff (server : Server) (tables : Tables) (fails : Bool)
    (id : UserId) (pwd : Bytes) (conn : Connection) :
    (login server id pwd conn).OnlyUnder (AnswersUsers tables fails)
        (fun _ call => Admits call → IsUser tables id pwd) ↔
      ¬AsFresh tables fails id pwd ∧ ¬AsCut tables fails id pwd := by
  rw [login_eq]
  constructor
  · intro only
    -- no route is cached and Redis has no session: the connection is registered
    have admitted (fits : FitsAnswer tables fails id pwd) : IsUser tables id pwd := by
      obtain ⟨-, asked⟩ := only
      obtain ⟨-, cached⟩ := asked (userAnswer tables fails id) rfl
      obtain ⟨-, locked⟩ := cached none trivial
      obtain ⟨-, looked⟩ := locked () trivial
      obtain ⟨-, unlocked⟩ := looked (some none) trivial
      exact registers_of_only fits (unlocked () trivial)
    exact ⟨fun fresh => fresh.nobody (admitted fresh.fits),
      fun cut => cut.nobody (admitted cut.fits)⟩
  · rintro ⟨notFresh, whole⟩
    refine ⟨fun admits => admits.elim, fun user answered => ?_⟩
    have lookup := lookup_only (queryUserNode_only id)
    refine (lookup.mono fun _ call plain admits =>
      (admits_not_of_plain call plain admits).elim).under.bind fun session => ?_
    obtain rfl : user = userAnswer tables fails id := answered
    by_cases fits : FitsAnswer tables fails id pwd
    · have known := isUser_of_fits fits notFresh whole
      exact (Calls.only_of_forall (fun _ _ _ => known) _).under
    · have refused : judgeLogin server id pwd conn (userAnswer tables fails id) session =
          service (.send conn (.loginAck .invalid)) := if_neg fits
      rw [refused]
      exact ⟨fun admits => absurd admits Nat.one_ne_zero, fun _ _ => trivial⟩

end Admission

/-- A client logs in as the user `-1` with an empty password. -/
def loginAsFresh : List (Turn ClusterEvent) :=
  .environment (.connect 0 0) :: ThreadSystem.handling 0 16 (.request 0 (.login (-1) []))

/-- It is registered, bound and answered without an error, though there is no such
user. -/
theorem login_admits_fresh :
    ∃ pool, ClusterReach 0 (twoServers 4) twoUsers pool ∧
      pool.state.database.users (-1) = none ∧
      pool.state.localEntry 0 (-1) = some ⟨⟨0, 0⟩, 0⟩ ∧
      pool.state.store.session (-1) ≠ none ∧
      pool.state.sent = [(⟨0, 0⟩, .loginAck (.accepted .default [] [] []))] := by
  have ran : ((clusterSystem.machine.run (startPool 0 (twoServers 4) twoUsers) loginAsFresh).any
      fun pool => decide (pool.state.database.users (-1) = none ∧
        pool.state.localEntry 0 (-1) = some ⟨⟨0, 0⟩, 0⟩ ∧ pool.state.store.session (-1) ≠ none ∧
        pool.state.sent = [(⟨0, 0⟩, .loginAck (.accepted .default [] [] []))])) = true := by
    decide +kernel
  obtain ⟨pool, ran, found⟩ := (Option.any_eq_true _ _).mp ran
  exact ⟨pool, .of_run ran, of_decide_eq_true found⟩

end ClusterChat
