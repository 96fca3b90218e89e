/-
# User ids as indices

Buckets and shards are picked by the absolute value of a user's id. Negating an `int` overflows
for the least one, which is undefined. Such an id may come from a client as well as from another
node.
-/

import ClusterChat.Service.Cluster

namespace ClusterChat

/-! ### Arithmetic on `int` -/

/-- A number as an `int`; none where it does not fit. -/
def int32? (value : Int) : Option Int32 :=
  if Int32.minValue.toInt ≤ value ∧ value ≤ Int32.maxValue.toInt then some (.ofInt value) else none

/-- `-value`, none on overflow. -/
def negInt32? (value : Int32) : Option Int32 := int32? (-value.toInt)

theorem int32?_eq_some {value : Int} {result : Int32} (fits : int32? value = some result) :
    result.toInt = value := by
  rw [int32?] at fits
  split at fits
  · rename_i bounds
    obtain rfl := Option.some.inj fits
    exact Int32.toInt_ofInt_of_le bounds.1 (Int.lt_add_one_of_le bounds.2)
  · cases fits

/-- Negation overflows for the least `int` alone. -/
theorem negInt32?_isSome_iff (value : Int32) :
    (negInt32? value).isSome = true ↔ value ≠ Int32.minValue := by
  have low := value.le_toInt
  have high := value.toInt_lt
  have least : value = Int32.minValue ↔ value.toInt = -2 ^ 31 := Int32.toInt_inj.symm
  have bounds : Int32.minValue.toInt ≤ -value.toInt ∧ -value.toInt ≤ Int32.maxValue.toInt ↔
      value.toInt ≠ -2 ^ 31 := by
    rw [Int32.toInt_minValue, Int32.toInt_maxValue]
    omega
  rw [negInt32?, int32?, Ne, least, ← Ne, ← bounds]
  split
  · rename_i fits
    exact iff_of_true rfl fits
  · rename_i wide
    exact iff_of_false (by decide) wide

/-! ### Picking a bucket or a shard -/

/-- The remainder of an id's absolute value; none where the absolute value overflows. -/
def pickIndex? (count : ℕ) (userId : UserId) : Option ℕ :=
  if count = 0 then some 0
  else (if 0 ≤ userId then some userId else negInt32? userId).map fun magnitude =>
    (magnitude.toInt % 2 ^ 64).toNat % count

/-- `ChatService::pickConnBucket`. -/
def ChatService.pickConnBucket? (connBucketCount : ℕ) (userId : UserId) : Option ℕ :=
  pickIndex? connBucketCount userId

/-- `ClusterRouter::pickShard`. -/
def ClusterRouter.pickShard? (shardCount : ℕ) (userId : UserId) : Option ℕ :=
  pickIndex? shardCount userId

variable {count : ℕ} {userId : UserId}

theorem pickIndex?_lt (positive : 0 < count) {index : ℕ}
    (picked : pickIndex? count userId = some index) : index < count := by
  rw [pickIndex?, if_neg positive.ne'] at picked
  obtain ⟨magnitude, -, rfl⟩ := Option.map_eq_some_iff.mp picked
  exact Nat.mod_lt _ positive

theorem pickIndex?_isSome_iff (positive : 0 < count) :
    (pickIndex? count userId).isSome = true ↔ userId ≠ Int32.minValue := by
  rw [pickIndex?, if_neg positive.ne', Option.isSome_map]
  by_cases nonneg : 0 ≤ userId
  · rw [if_pos nonneg]
    refine iff_of_true rfl ?_
    rintro rfl
    exact absurd nonneg (by decide)
  · rw [if_neg nonneg]
    exact negInt32?_isSome_iff userId

/-- An index is picked, without overflow and below the count, just if the id is not the least
`int`. -/
theorem pickIndex?_safe_iff (positive : 0 < count) :
    (∃ index, pickIndex? count userId = some index ∧ index < count) ↔
      userId ≠ Int32.minValue := by
  rw [← pickIndex?_isSome_iff positive, Option.isSome_iff_exists]
  exact exists_congr fun index => and_iff_left_of_imp (pickIndex?_lt positive)

/-- Without overflow, the magnitude of an id is its own negation where it is negative. -/
theorem negInt32?_eq_neg {magnitude : Int32} (negated : negInt32? userId = some magnitude) :
    magnitude = -userId := by
  apply Int32.toInt_inj.mp
  have value := int32?_eq_some negated
  have low := magnitude.le_toInt
  have high := magnitude.toInt_lt
  rw [Int32.toInt_neg, ← value, Int.bmod_eq_of_le]
  · omega
  · omega

/-- Where it does not overflow, the index is the one that the handlers work with. -/
theorem pickConnBucket?_eq_some {index : ℕ}
    (picked : ChatService.pickConnBucket? 64 userId = some index) :
    index = ChatService.pickConnBucket userId := by
  rw [ChatService.pickConnBucket?, pickIndex?, if_neg (by decide)] at picked
  obtain ⟨magnitude, found, rfl⟩ := Option.map_eq_some_iff.mp picked
  rw [ChatService.pickConnBucket]
  by_cases nonneg : 0 ≤ userId
  · rw [if_pos nonneg] at found ⊢
    rw [Option.some.inj found]
  · rw [if_neg nonneg] at found ⊢
    rw [negInt32?_eq_neg found]

theorem pickShard?_eq_some {shardCount index : ℕ}
    (picked : ClusterRouter.pickShard? shardCount userId = some index) :
    index = ClusterRouter.pickShard shardCount userId := by
  rw [ClusterRouter.pickShard?, pickIndex?] at picked
  rw [ClusterRouter.pickShard]
  by_cases none : shardCount = 0
  · rw [if_pos none] at picked ⊢
    exact (Option.some.inj picked).symm
  · rw [if_neg none] at picked ⊢
    obtain ⟨magnitude, found, rfl⟩ := Option.map_eq_some_iff.mp picked
    by_cases nonneg : 0 ≤ userId
    · rw [if_pos nonneg] at found ⊢
      rw [Option.some.inj found]
    · rw [if_neg nonneg] at found ⊢
      rw [negInt32?_eq_neg found]

/-- **Buckets and shards are picked without overflow** just for the ids other than the least
`int`, and they are below their counts. -/
theorem pick_safe_iff (userId : UserId) {connBucketCount shardCount : ℕ}
    (buckets : 0 < connBucketCount) (shards : 0 < shardCount) :
    ((∃ bucket, ChatService.pickConnBucket? connBucketCount userId = some bucket ∧
        bucket < connBucketCount) ∧
      ∃ shard, ClusterRouter.pickShard? shardCount userId = some shard ∧ shard < shardCount) ↔
      userId ≠ Int32.minValue := by
  have bucket : _ ↔ userId ≠ Int32.minValue := pickIndex?_safe_iff buckets
  have shard : _ ↔ userId ≠ Int32.minValue := pickIndex?_safe_iff shards
  exact ⟨fun picked => bucket.mp picked.1, fun other => ⟨bucket.mpr other, shard.mpr other⟩⟩

/-- The default counts, and a negative id. -/
theorem pick_safe_iff_defaults :
    (∃ bucket, ChatService.pickConnBucket? 64 (-7) = some bucket ∧ bucket < 64) ∧
      ∃ shard, ClusterRouter.pickShard? 4 (-7) = some shard ∧ shard < 4 :=
  (pick_safe_iff (-7) (by decide) (by decide)).mpr (by decide)

/-- The least `int` comes by a frame from another node, by the recipients of a group message and
by the fields of a client's message; its bucket and its shard cannot be picked. -/
theorem leastId_overflows :
    takeFrame (oneChatFrame Int32.minValue []) =
        some ([.handleClusterOneChatFrame Int32.minValue []], []) ∧
      (Json.ofIntVector [Int32.minValue]).getIntVector = .ok [Int32.minValue] ∧
      ((Json.obj [("to", .int (-2147483648))]).field "to" >>= Json.getInt) =
        .ok Int32.minValue ∧
      ChatService.pickConnBucket? 64 Int32.minValue = none ∧
      ClusterRouter.pickShard? 4 Int32.minValue = none :=
  ⟨rfl, Json.getIntVector_ofIntVector _, rfl, by decide, by decide⟩

end ClusterChat
