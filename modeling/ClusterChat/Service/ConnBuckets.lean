/-
# The connection table

A node keeps the connections of its users in 64 buckets. Positive and negative ids share
buckets, and a connection is found again by going through all of them. Taken together the
buckets are one map from users to connections: the operations answer what that map would
answer, as long as a connection that is removed belongs to one user at most.
-/

import ClusterChat.Data.Shards
import ClusterChat.Service.Complete

namespace ClusterChat

/-- `connBuckets_`. -/
abbrev ConnBuckets := Shards UserId Connection 64

/-- What is done to the table. The scan for a connection meets the entries of each bucket in
an order that depends on the hash map. -/
inductive TableCall
  | addLocalConnection (userId : UserId) (conn : Connection)
  | removeLocalConnection (userId : UserId)
  | removeLocalConnectionByConn (conn : Connection) (iterationOrder : Fin 64 → List ℕ)
  | getLocalConnection (userId : UserId)

/-- What the table answers. -/
inductive TableAnswer
  | done
  | removed (userId : UserId)
  | found (conn : Option Connection)
  deriving DecidableEq

namespace ConnBuckets

/-- The bucket of a user. -/
def bucketOf (userId : UserId) : Fin 64 :=
  ⟨ChatService.pickConnBucket userId, pickConnBucket_lt userId⟩

def addLocalConnection (buckets : ConnBuckets) (userId : UserId) (conn : Connection) :
    ConnBuckets :=
  buckets.insert bucketOf userId conn

def removeLocalConnection (buckets : ConnBuckets) (userId : UserId) : ConnBuckets :=
  buckets.erase bucketOf userId

def removeLocalConnectionByConn (buckets : ConnBuckets) (conn : Connection)
    (iterationOrder : Fin 64 → List ℕ) : UserId × ConnBuckets :=
  match buckets.find (fun i entries => arrange (iterationOrder i) entries) conn with
  | none => (-1, buckets)
  | some (i, userId) => (userId, buckets.eraseAt i userId)

def getLocalConnection (buckets : ConnBuckets) (userId : UserId) : Option Connection :=
  buckets.lookup bucketOf userId

/-- One operation on the table. -/
def step (buckets : ConnBuckets) : TableCall → TableAnswer × ConnBuckets
  | .addLocalConnection userId conn => (.done, buckets.addLocalConnection userId conn)
  | .removeLocalConnection userId => (.done, buckets.removeLocalConnection userId)
  | .removeLocalConnectionByConn conn iterationOrder =>
    let (userId, buckets) := buckets.removeLocalConnectionByConn conn iterationOrder
    (.removed userId, buckets)
  | .getLocalConnection userId => (.found (buckets.getLocalConnection userId), buckets)

/-- Operations in sequence, with their answers. -/
def run (buckets : ConnBuckets) : List TableCall → List TableAnswer × ConnBuckets
  | [] => ([], buckets)
  | call :: rest =>
    let (answer, buckets) := buckets.step call
    let (answers, buckets) := buckets.run rest
    (answer :: answers, buckets)

end ConnBuckets

/-! ### One map -/

/-- A single map from users to connections. -/
abbrev ConnMap := UserId → Option Connection

namespace ConnMap

/-- One operation on a single map; a connection is removed with a user of it. -/
noncomputable def step (map : ConnMap) : TableCall → TableAnswer × ConnMap
  | .addLocalConnection userId conn => (.done, Function.update map userId (some conn))
  | .removeLocalConnection userId => (.done, Function.update map userId none)
  | .removeLocalConnectionByConn conn _ =>
    letI := Classical.propDecidable (∃ userId, map userId = some conn)
    if held : ∃ userId, map userId = some conn then
      (.removed held.choose, Function.update map held.choose none)
    else (.removed (-1), map)
  | .getLocalConnection userId => (.found (map userId), map)

/-- Operations in sequence, with their answers. -/
noncomputable def run (map : ConnMap) : List TableCall → List TableAnswer × ConnMap
  | [] => ([], map)
  | call :: rest =>
    ((map.step call).1 :: (run (map.step call).2 rest).1, (run (map.step call).2 rest).2)

/-- A connection that is to be removed is registered for one user at most. -/
def Alone (map : ConnMap) : TableCall → Prop
  | .removeLocalConnectionByConn conn _ =>
    ∀ userId other, map userId = some conn → map other = some conn → userId = other
  | _ => True

/-- So is each of those that a sequence of operations removes. -/
def AllAlone (map : ConnMap) : List TableCall → Prop
  | [] => True
  | call :: rest => map.Alone call ∧ AllAlone (map.step call).2 rest

end ConnMap

/-! ### The buckets are one map -/

namespace ConnBuckets

/-- The buckets hold each user in its own place, and what the single map holds. -/
structure Represents (buckets : ConnBuckets) (map : ConnMap) : Prop where
  placed : buckets.Placed bucketOf
  lookup : ∀ userId, buckets.lookup bucketOf userId = map userId

variable {buckets : ConnBuckets} {map : ConnMap}

theorem represents_empty : Represents .empty fun _ => none :=
  ⟨Shards.placed_empty, fun _ => rfl⟩

theorem Represents.add (represents : Represents buckets map) (userId : UserId) (conn : Connection) :
    Represents (buckets.addLocalConnection userId conn)
      (Function.update map userId (some conn)) := by
  refine ⟨represents.placed.insert, fun other => ?_⟩
  by_cases same : other = userId
  · subst same
    rw [Function.update_self]
    exact Shards.lookup_insert_self
  · rw [Function.update_of_ne same]
    exact (Shards.lookup_insert_ne same).trans (represents.lookup other)

theorem Represents.remove (represents : Represents buckets map) (userId : UserId) :
    Represents (buckets.removeLocalConnection userId) (Function.update map userId none) := by
  refine ⟨represents.placed.eraseAt _ _, fun other => ?_⟩
  by_cases same : other = userId
  · subst same
    rw [Function.update_self]
    exact Shards.lookup_erase_self
  · rw [Function.update_of_ne same]
    exact (Shards.lookup_erase_ne same).trans (represents.lookup other)

/-- **An operation on the buckets** is one on the single map. -/
theorem Represents.step (represents : Represents buckets map) {call : TableCall}
    (alone : map.Alone call) :
    (buckets.step call).1 = (map.step call).1 ∧
      Represents (buckets.step call).2 (map.step call).2 := by
  cases call with
  | addLocalConnection userId conn => exact ⟨rfl, represents.add userId conn⟩
  | removeLocalConnection userId => exact ⟨rfl, represents.remove userId⟩
  | getLocalConnection userId =>
    exact ⟨congrArg TableAnswer.found (represents.lookup userId), represents⟩
  | removeLocalConnectionByConn conn iterationOrder =>
    have orders : ∀ i entries, (arrange (iterationOrder i)
        (entries : List (Sigma fun _ : UserId => Connection))).Perm entries :=
      fun i entries => arrange_perm (iterationOrder i) entries
    simp only [ConnBuckets.step, removeLocalConnectionByConn, ConnMap.step]
    cases found : buckets.find (fun i entries => arrange (iterationOrder i) entries) conn with
    | none =>
      have absent : ¬∃ userId, map userId = some conn := by
        rintro ⟨userId, held⟩
        exact Shards.find_eq_none orders found userId ((represents.lookup userId).trans held)
      rw [dif_neg absent]
      exact ⟨rfl, represents⟩
    | some entry =>
      obtain ⟨i, userId⟩ := entry
      obtain ⟨rfl, present⟩ := Shards.find_eq_some represents.placed orders found
      have known : map userId = some conn := (represents.lookup userId).symm.trans present
      have held : ∃ userId, map userId = some conn := ⟨userId, known⟩
      -- the connection has one user, whichever the scan meets first
      have same : held.choose = userId := alone _ _ held.choose_spec known
      rw [dif_pos held, same]
      exact ⟨rfl, represents.remove userId⟩

/-- **A run on the buckets** is one on the single map. -/
theorem Represents.run (represents : Represents buckets map) {calls : List TableCall}
    (alone : map.AllAlone calls) :
    (buckets.run calls).1 = (map.run calls).1 ∧
      Represents (buckets.run calls).2 (map.run calls).2 := by
  induction calls generalizing buckets map with
  | nil => exact ⟨rfl, represents⟩
  | cons call rest ih =>
    obtain ⟨answer, next⟩ := represents.step alone.1
    obtain ⟨answers, last⟩ := ih next alone.2
    exact ⟨congrArg₂ List.cons answer answers, last⟩

/-- The user whose entry an operation may change: its own, or the one it says it removed. -/
def changes : TableCall → TableAnswer → Option UserId
  | .addLocalConnection userId _, _ => some userId
  | .removeLocalConnection userId, _ => some userId
  | .removeLocalConnectionByConn _ _, .removed userId => some userId
  | _, _ => none

/-- An operation leaves the entries of other users alone. -/
theorem Represents.others (represents : Represents buckets map) (call : TableCall) {other : UserId}
    (differ : changes call (buckets.step call).1 ≠ some other) :
    (buckets.step call).2.getLocalConnection other = buckets.getLocalConnection other := by
  cases call with
  | addLocalConnection userId conn =>
    exact Shards.lookup_insert_ne fun same => differ (congrArg some same.symm)
  | removeLocalConnection userId =>
    exact Shards.lookup_erase_ne fun same => differ (congrArg some same.symm)
  | getLocalConnection userId => rfl
  | removeLocalConnectionByConn conn iterationOrder =>
    simp only [ConnBuckets.step, removeLocalConnectionByConn] at differ ⊢
    cases found : buckets.find (fun i entries => arrange (iterationOrder i) entries) conn with
    | none => rfl
    | some entry =>
      obtain ⟨i, userId⟩ := entry
      rw [found] at differ
      obtain ⟨rfl, -⟩ := Shards.find_eq_some represents.placed
        (fun i entries => arrange_perm (iterationOrder i) entries) found
      exact Shards.lookup_erase_ne fun same => differ (congrArg some same.symm)

/-- **The connection table is one map.** Whatever operations come one after another, from an
empty table, the answers are those of a single map as long as a connection that is removed is
registered for one user at most. Each entry is in its user's bucket, and the next operation
leaves the entries of other users alone. -/
theorem run_eq_map {calls : List TableCall} (alone : ConnMap.AllAlone (fun _ => none) calls) :
    (run .empty calls).1 = (ConnMap.run (fun _ => none) calls).1 ∧
      (∀ i userId, userId ∈ (run .empty calls).2 i → i = bucketOf userId) ∧
      ∀ call other, changes call ((run .empty calls).2.step call).1 ≠ some other →
        ((run .empty calls).2.step call).2.getLocalConnection other =
          (run .empty calls).2.getLocalConnection other := by
  obtain ⟨answers, represents⟩ := represents_empty.run alone
  refine ⟨answers, fun i userId listed => (represents.placed i userId listed).symm, ?_⟩
  intro call other differ
  exact represents.others call differ

/-- Three users share a bucket, and one of their connections goes away. -/
def sharedBucket : List TableCall :=
  [.addLocalConnection 1 ⟨0, 0⟩, .addLocalConnection (-1) ⟨1, 0⟩, .addLocalConnection 65 ⟨2, 0⟩,
    .removeLocalConnectionByConn ⟨1, 0⟩ fun _ => [], .getLocalConnection 1,
    .getLocalConnection (-1)]

theorem sharedBucket_alone : ConnMap.AllAlone (fun _ => none) sharedBucket := by
  refine ⟨trivial, trivial, trivial, ?_, trivial, trivial, trivial⟩
  have only : ∀ userId : UserId, Function.update (Function.update (Function.update
      (fun _ => none) 1 (some (⟨0, 0⟩ : Connection))) (-1) (some ⟨1, 0⟩)) 65 (some ⟨2, 0⟩) userId =
        some ⟨1, 0⟩ → userId = -1 := by
    intro userId held
    by_contra other
    by_cases last : userId = 65
    · rw [last, Function.update_self] at held
      cases held
    · rw [Function.update_of_ne last, Function.update_of_ne other] at held
      by_cases first : userId = 1
      · rw [first, Function.update_self] at held
        cases held
      · rw [Function.update_of_ne first] at held
        cases held
  intro userId other held held'
  exact (only userId held).trans (only other held').symm

theorem run_eq_map_sharedBucket :
    (run .empty sharedBucket).1 =
        [.done, .done, .done, .removed (-1), .found (some ⟨0, 0⟩), .found none] ∧
      (run .empty sharedBucket).1 = (ConnMap.run (fun _ => none) sharedBucket).1 ∧
      (∀ i userId, userId ∈ (run .empty sharedBucket).2 i → i = bucketOf userId) ∧
      ∀ call other, changes call ((run .empty sharedBucket).2.step call).1 ≠ some other →
        ((run .empty sharedBucket).2.step call).2.getLocalConnection other =
          (run .empty sharedBucket).2.getLocalConnection other := by
  have answers : (run .empty sharedBucket).1 =
      [.done, .done, .done, .removed (-1), .found (some ⟨0, 0⟩), .found none] := by
    decide +kernel
  exact ⟨answers, run_eq_map sharedBucket_alone⟩

end ConnBuckets

end ClusterChat
