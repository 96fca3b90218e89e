/-
# JSON values and the JSON library

Messages are JSON values of the vendored library, whose lexer and serializer
are not part of the repository. A value is modelled with what the program reads
from it: member access, conversions to 32-bit integers, strings and integer
lists, each with the exception it throws. Parsing and dumping are parameters,
bundled with the documented facts the program relies on: a value that can be
written down is dumped to text without NUL that parses back to it, and the text
of an object starts with a brace.
-/

import ClusterChat.Data.Bytes
import Mathlib.Data.String.Basic

namespace ClusterChat

/-- A finite double, by its bits. -/
abbrev Double := {bits : UInt64 // bits >>> 52 &&& 0x7FF ≠ 0x7FF}

namespace Double

/-- The value of a double, cut towards zero. -/
def truncate (d : Double) : Int :=
  let exponent := (d.val >>> 52 &&& 0x7FF).toNat
  let fraction := (d.val &&& 0xFFFFFFFFFFFFF).toNat
  let mantissa := if exponent = 0 then fraction else 2 ^ 52 + fraction
  let magnitude : Nat :=
    if exponent < 1075 then mantissa >>> (1075 - exponent) else mantissa <<< (exponent - 1075)
  if d.val >>> 63 = 0 then magnitude else -magnitude

/-- `static_cast<int>` of a double. Outside the range of `int` the conversion
is undefined in C++; the target machine answers the least integer. -/
def toInt32 (d : Double) : Int32 :=
  if Int32.minValue.toInt ≤ d.truncate ∧ d.truncate ≤ Int32.maxValue.toInt then
    .ofInt d.truncate
  else Int32.minValue

end Double

/-- A JSON value. The members of an object are kept in the order of their keys. -/
inductive Json
  | null
  | bool (value : Bool)
  | int (value : Int)
  | float (value : Double)
  | str (value : Bytes)
  | arr (items : List Json)
  | obj (members : List (String × Json))

/-- `json::exception`: malformed text, or an operation on the wrong type with
the library's number for it. -/
inductive JsonException
  | parseError
  | typeError (id : ℕ)
  deriving DecidableEq

/-- The bytes encode a sequence of characters. -/
def ValidUtf8 (bytes : Bytes) : Prop :=
  ∃ chars : List Char, bytes = chars.flatMap String.utf8EncodeChar

namespace Json

/-- `js[key]` where the member is only read: a missing member reads as null,
and so does every member of null itself. -/
def field (key : String) : Json → Except JsonException Json
  | null => .ok null
  | obj members => .ok ((members.lookup key).getD null)
  | _ => .error (.typeError 305)

/-- `get<int>()`: any number, or a boolean, narrowed to 32 bits. -/
def getInt : Json → Except JsonException Int32
  | int value => .ok (.ofInt value)
  | float value => .ok value.toInt32
  | bool value => .ok (if value then 1 else 0)
  | _ => .error (.typeError 302)

/-- Conversion to `string`. -/
def getString : Json → Except JsonException Bytes
  | str value => .ok value
  | _ => .error (.typeError 302)

/-- `get<vector<int>>()`. -/
def getIntVector : Json → Except JsonException (List Int32)
  | arr items => items.mapM getInt
  | _ => .error (.typeError 302)

/-- Put a member at its place in the order of keys, over one of the same key. -/
def insertMember (key : String) (value : Json) : List (String × Json) → List (String × Json)
  | [] => [(key, value)]
  | member :: rest =>
    if key = member.1 then (key, value) :: rest
    else if key < member.1 then (key, value) :: member :: rest
    else member :: insertMember key value rest

/-- The members of an object. -/
def members : Json → List (String × Json)
  | obj members => members
  | _ => []

/-- `js[key] = value` on an object, or on a fresh null that becomes one. -/
def set (js : Json) (key : String) (value : Json) : Json :=
  obj (insertMember key value js.members)

/-- A list of integers as a value. -/
def ofIntVector (values : List Int32) : Json := arr (values.map fun value => int value.toInt)

/-- A value that can be written down and read back: numbers in the range of
the library's 64-bit types, valid strings, keys in order. -/
inductive WellFormed : Json → Prop
  | null : WellFormed null
  | bool (value : Bool) : WellFormed (bool value)
  | int {value : Int} (low : -2 ^ 63 ≤ value) (high : value < 2 ^ 64) : WellFormed (int value)
  | float (value : Double) : WellFormed (float value)
  | str {value : Bytes} (valid : ValidUtf8 value) : WellFormed (str value)
  | arr {items : List Json} (each : ∀ item ∈ items, WellFormed item) : WellFormed (arr items)
  | obj {members : List (String × Json)} (ordered : members.Pairwise (·.1 < ·.1))
      (each : ∀ member ∈ members, WellFormed member.2) : WellFormed (obj members)

@[simp] theorem field_null (key : String) : field key null = .ok null := rfl

@[simp] theorem field_obj (key : String) (members : List (String × Json)) :
    field key (obj members) = .ok ((members.lookup key).getD null) := rfl

@[simp] theorem getInt_int (value : Int32) : getInt (int value.toInt) = .ok value :=
  congrArg Except.ok (Int32.ofInt_toInt value)

@[simp] theorem getString_str (value : Bytes) : getString (str value) = .ok value := rfl

@[simp] theorem getIntVector_ofIntVector (values : List Int32) :
    getIntVector (ofIntVector values) = .ok values := by
  rw [ofIntVector, getIntVector]
  induction values with
  | nil => rfl
  | cons value values ih =>
    rw [List.map_cons, List.mapM_cons, getInt_int, ih]
    rfl

@[simp] theorem members_obj (members : List (String × Json)) : (obj members).members = members :=
  rfl

@[simp] theorem members_null : null.members = [] := rfl

theorem lookup_member (key other : String) (value : Json) (rest : List (String × Json)) :
    ((key, value) :: rest).lookup other =
      if other = key then some value else rest.lookup other := by
  by_cases same : other = key
  · rw [if_pos same, same, List.lookup_cons_self]
  · have differ : (other == key) = false := by simpa using same
    rw [if_neg same, List.lookup_cons, differ]

/-- Putting a member in changes what is found under its key, and nothing else. -/
theorem lookup_insertMember (key other : String) (value : Json) (members : List (String × Json)) :
    (insertMember key value members).lookup other =
      if other = key then some value else members.lookup other := by
  induction members with
  | nil => rw [insertMember, lookup_member]
  | cons member rest ih =>
    obtain ⟨name, old⟩ := member
    rw [insertMember, lookup_member]
    by_cases here : key = name
    · rw [if_pos here, lookup_member]
      grind
    by_cases before : key < name
    · rw [if_neg here, if_pos before, lookup_member, lookup_member]
    · rw [if_neg here, if_neg before, lookup_member, ih]
      grind

@[simp] theorem field_set (js : Json) (key other : String) (value : Json) :
    (js.set key value).field other =
      .ok (if other = key then value else (js.members.lookup other).getD null) := by
  rw [set, field_obj, lookup_insertMember]
  split <;> rfl

theorem mem_insertMember {key : String} {value : Json} {members : List (String × Json)}
    {member : String × Json} (listed : member ∈ insertMember key value members) :
    member = (key, value) ∨ member ∈ members := by
  induction members with
  | nil => exact .inl (by simpa [insertMember] using listed)
  | cons first rest ih =>
    rw [insertMember] at listed
    grind

/-- Putting a well-formed member into an object keeps it well-formed. -/
theorem WellFormed.set {js : Json} (wellFormed : (Json.obj js.members).WellFormed) (key : String)
    {value : Json} (valid : value.WellFormed) : (js.set key value).WellFormed := by
  obtain _ | _ | _ | _ | _ | _ | ⟨ordered, each⟩ := wellFormed
  refine .obj ?_ fun member listed => ?_
  · generalize js.members = members at ordered each
    induction members with
    | nil => simp [insertMember]
    | cons first rest ih =>
      obtain ⟨least, ordered⟩ := List.pairwise_cons.mp ordered
      rw [insertMember]
      by_cases here : key = first.1
      · rw [if_pos here]
        exact List.pairwise_cons.mpr ⟨here ▸ least, ordered⟩
      by_cases before : key < first.1
      · rw [if_neg here, if_pos before]
        refine List.pairwise_cons.mpr
          ⟨fun member listed => ?_, List.pairwise_cons.mpr ⟨least, ordered⟩⟩
        rcases List.mem_cons.mp listed with rfl | later
        · exact before
        · exact before.trans (least member later)
      · rw [if_neg here, if_neg before]
        refine List.pairwise_cons.mpr ⟨fun member listed => ?_, ih ordered fun member later =>
          each member (List.mem_cons_of_mem _ later)⟩
        rcases mem_insertMember listed with rfl | later
        · exact lt_of_le_of_ne (not_lt.mp before) (Ne.symm here)
        · exact least member later
  · rcases mem_insertMember listed with rfl | old
    · exact valid
    · exact each member old

theorem WellFormed.empty : (Json.obj []).WellFormed := .obj .nil fun _ listed => by cases listed

theorem WellFormed.int32 (value : Int32) : WellFormed (.int value.toInt) :=
  .int (by have := value.le_toInt; omega) (by have := value.toInt_lt; omega)

theorem WellFormed.intVector (values : List Int32) : WellFormed (ofIntVector values) := by
  refine .arr fun item listed => ?_
  obtain ⟨value, -, rfl⟩ := List.mem_map.mp listed
  exact .int32 value

end Json

/-! ### Message ids -/

/-- The kinds of messages, between clients and servers and between nodes. -/
inductive EnMsgType
  | loginMsg | loginMsgAck | logoutMsg | regMsg | regMsgAck | oneChatMsg | addFriendMsg
  | createGroupMsg | addGroupMsg | groupChatMsg
  | nodeRouteOneChatMsg | nodeRouteGroupChatMsg | nodePingMsg | nodePongMsg
  deriving DecidableEq

/-- The number that stands for a kind in `msgId`. -/
def EnMsgType.msgId : EnMsgType → Int32
  | loginMsg => 1
  | loginMsgAck => 2
  | logoutMsg => 3
  | regMsg => 4
  | regMsgAck => 5
  | oneChatMsg => 6
  | addFriendMsg => 7
  | createGroupMsg => 8
  | addGroupMsg => 9
  | groupChatMsg => 10
  | nodeRouteOneChatMsg => 100
  | nodeRouteGroupChatMsg => 101
  | nodePingMsg => 102
  | nodePongMsg => 103

/-- The JSON library: parsing and dumping, and what the program relies on. -/
structure JsonLibrary where
  parse : Bytes → Except JsonException Json
  dump : Json → Except JsonException Bytes
  dump_ok : ∀ {js : Json}, js.WellFormed →
    ∃ text, dump js = .ok text ∧ nul ∉ text ∧ parse text = .ok js
  dump_object : ∀ {members : List (String × Json)} {text : Bytes},
    dump (.obj members) = .ok text → text.head? = some '{'.toUInt8

end ClusterChat
