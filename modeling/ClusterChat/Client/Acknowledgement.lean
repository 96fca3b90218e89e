/-
# Acknowledgements as text

A server answers a login with lists of friends and groups, each entry dumped to a string of its
own, and the members of a group once more within it. An empty list is left out. Whatever was
dumped parses back, so the strings can be read from the outside in.
-/

import ClusterChat.Data.JsonGrammar
import ClusterChat.Data.JsonText
import ClusterChat.Service.Interface

namespace ClusterChat

open JsonGrammar

/-! ### Lists of strings -/

namespace Json

/-- A list of strings as a value. -/
def ofStringVector (values : List Bytes) : Json := arr (values.map str)

/-- Conversion to `vector<string>`. -/
def getStringVector : Json → Except JsonException (List Bytes)
  | arr items => items.mapM getString
  | _ => .error (.typeError 302)

/-- `js.contains(key)`. -/
def contains (js : Json) (key : String) : Bool := (js.members.lookup key).isSome

/-- `if (!values.empty()) js[key] = values`. -/
def setList (js : Json) (key : String) (values : List Bytes) : Json :=
  if values = [] then js else js.set key (ofStringVector values)

/-- Members can be read: the value is an object, or null. -/
def IsRecord (js : Json) : Prop := ∀ key, js.field key = .ok ((js.members.lookup key).getD null)

@[simp] theorem getStringVector_ofStringVector (values : List Bytes) :
    getStringVector (ofStringVector values) = .ok values := by
  rw [ofStringVector, getStringVector]
  induction values with
  | nil => rfl
  | cons value values ih =>
    rw [List.map_cons, List.mapM_cons, getString_str, ih]
    rfl

theorem lookup_set (js : Json) (key other : String) (value : Json) :
    (js.set key value).members.lookup other =
      if other = key then some value else js.members.lookup other :=
  lookup_insertMember key other value js.members

theorem lookup_setList (js : Json) (key other : String) (values : List Bytes) :
    (js.setList key values).members.lookup other =
      if other = key ∧ values ≠ [] then some (ofStringVector values)
      else js.members.lookup other := by
  rw [setList]
  by_cases empty : values = []
  · rw [if_pos empty, if_neg (fun both => both.2 empty)]
  · rw [if_neg empty, lookup_set]
    exact if_congr (and_iff_left empty).symm rfl rfl

theorem isRecord_set (js : Json) (key : String) (value : Json) : (js.set key value).IsRecord :=
  fun _ => rfl

theorem IsRecord.setList {js : Json} (record : js.IsRecord) (key : String) (values : List Bytes) :
    (js.setList key values).IsRecord := by
  rw [Json.setList]
  split
  · exact record
  · exact isRecord_set js key _

theorem IsRecord.field {js value : Json} (record : js.IsRecord) {key : String}
    (found : js.members.lookup key = some value) : js.field key = .ok value := by
  rw [record, found]
  rfl

end Json

/-! ### The library -/

/-- What is dumped parses back, and what is parsed could be dumped: text that is no valid UTF-8 is
refused by the writer and by the reader. -/
structure JsonLibrary.Faithful (lib : JsonLibrary) : Prop where
  dump_parses : ∀ {js : Json} {text : Bytes}, lib.dump js = .ok text → lib.parse text = .ok js
  parse_wellFormed : ∀ {js : Json} {text : Bytes}, lib.parse text = .ok js → js.WellFormed

namespace JsonLibrary

section Strict

variable (lib : JsonLibrary) {js : Json} {text : Bytes}

noncomputable def strictDump (js : Json) : Except JsonException Bytes :=
  letI := Classical.propDecidable js.WellFormed
  if js.WellFormed then lib.dump js else .error (.typeError 316)

noncomputable def strictParse (text : Bytes) : Except JsonException Json := do
  let js ← lib.parse text
  letI := Classical.propDecidable js.WellFormed
  if js.WellFormed then return js else .error .parseError

theorem strictDump_eq_ok :
    lib.strictDump js = .ok text ↔ js.WellFormed ∧ lib.dump js = .ok text := by
  rw [strictDump]
  by_cases wellFormed : js.WellFormed
  · rw [if_pos wellFormed, and_iff_right wellFormed]
  · rw [if_neg wellFormed]
    exact iff_of_false (fun same => by cases same) fun both => wellFormed both.1

theorem strictParse_eq_ok :
    lib.strictParse text = .ok js ↔ lib.parse text = .ok js ∧ js.WellFormed := by
  rw [strictParse]
  cases parsed : lib.parse text with
  | error error => exact iff_of_false (fun same => by cases same) fun both => by cases both.1
  | ok value =>
    let _ := Classical.propDecidable value.WellFormed
    change (if value.WellFormed then _ else _) = _ ↔ _
    by_cases wellFormed : value.WellFormed
    · rw [if_pos wellFormed]
      constructor
      · rintro ⟨⟩
        exact ⟨rfl, wellFormed⟩
      · exact fun both => both.1
    · rw [if_neg wellFormed]
      refine iff_of_false (fun same => by cases same) ?_
      rintro ⟨⟨⟩, other⟩
      exact wellFormed other

/-- A library that refuses what is not well-formed. -/
noncomputable def strict : JsonLibrary where
  parse := lib.strictParse
  dump := lib.strictDump
  dump_ok {js} wellFormed := by
    obtain ⟨text, dumped, free, parsed⟩ := lib.dump_ok wellFormed
    exact ⟨text, lib.strictDump_eq_ok.mpr ⟨wellFormed, dumped⟩, free,
      lib.strictParse_eq_ok.mpr ⟨parsed, wellFormed⟩⟩
  dump_object dumped := lib.dump_object (lib.strictDump_eq_ok.mp dumped).2

theorem strict_faithful : lib.strict.Faithful where
  dump_parses {js text} dumped := by
    obtain ⟨wellFormed, same⟩ := lib.strictDump_eq_ok.mp dumped
    obtain ⟨other, dumped', -, parsed⟩ := lib.dump_ok wellFormed
    obtain rfl : other = text := Except.ok.inj (dumped'.symm.trans same)
    exact lib.strictParse_eq_ok.mpr ⟨parsed, wellFormed⟩
  parse_wellFormed parsed := (lib.strictParse_eq_ok.mp parsed).2

end Strict

namespace Faithful

variable {lib : JsonLibrary} (faithful : lib.Faithful)

include faithful

theorem wellFormed {js : Json} {text : Bytes} (dumped : lib.dump js = .ok text) : js.WellFormed :=
  faithful.parse_wellFormed (faithful.dump_parses dumped)

/-- A member of an object that was parsed can be written out. -/
theorem dump_member {members : List (String × Json)} {text : Bytes}
    (parsed : lib.parse text = .ok (.obj members)) (key : String) :
    ∃ out, lib.dump ((members.lookup key).getD .null) = .ok out := by
  have inside : ((members.lookup key).getD .null).WellFormed := by
    cases found : members.lookup key with
    | none => exact .null
    | some value =>
      have listed : (key, value) ∈ members := by
        obtain ⟨front, back, rfl, -⟩ := List.lookup_eq_some_iff.mp found
        exact List.mem_append_right front List.mem_cons_self
      cases faithful.parse_wellFormed parsed with
      | obj ordered each => exact each _ listed
  obtain ⟨out, dumped, -⟩ := lib.dump_ok inside
  exact ⟨out, dumped⟩

end Faithful

end JsonLibrary

/-! ### What the server writes -/

/-- A friend. -/
def userJson (user : User) : Json :=
  Json.null
    |>.set "id" (.int user.id.toInt)
    |>.set "name" (.str user.name.bytes)
    |>.set "state" (.str user.state.bytes)

/-- A member of a group. -/
def groupUserJson (user : GroupUser) : Json :=
  Json.null
    |>.set "id" (.int user.id.toInt)
    |>.set "name" (.str user.name.bytes)
    |>.set "state" (.str user.state.bytes)
    |>.set "role" (.str user.role.bytes)

/-- A group, with its members dumped. -/
def groupJson (group : Group) (users : List Bytes) : Json :=
  Json.null
    |>.set "id" (.int group.id.toInt)
    |>.set "groupname" (.str group.name.bytes)
    |>.set "groupdesc" (.str group.desc.bytes)
    |>.set "users" (.ofStringVector users)

def dumpGroup (lib : JsonLibrary) (group : Group) : Except JsonException Bytes := do
  let users ← group.users.mapM fun user => lib.dump (groupUserJson user)
  lib.dump (groupJson group users)

/-- The front of an answer of this kind. -/
def ackJson (kind : EnMsgType) (errno : Int) : Json :=
  Json.null
    |>.set "msgId" (.int kind.msgId.toInt)
    |>.set "errno" (.int errno)

/-- An acceptance, with what the lists were dumped to. -/
def acceptedJson (user : User) (offlineMsg friends groups : List Bytes) : Json :=
  ackJson .loginMsgAck 0
    |>.set "id" (.int user.id.toInt)
    |>.set "name" (.str user.name.bytes)
    |>.setList "offlinemsg" offlineMsg
    |>.setList "friends" friends
    |>.setList "groups" groups

/-- The object that `login` answers with. -/
def loginJson (lib : JsonLibrary) : LoginResponse → Except JsonException Json
  | .invalid =>
    .ok ((ackJson .loginMsgAck 1).set "errmsg" (.str (letters "id or password is invalid!")))
  | .inUse =>
    .ok ((ackJson .loginMsgAck 2).set "errmsg"
      (.str (letters "This account is using, input another!")))
  | .registerFailed =>
    .ok ((ackJson .loginMsgAck 3).set "errmsg" (.str (letters "register session failed")))
  | .accepted user offlineMsg friends groups => do
    let vec ← friends.mapM fun user => lib.dump (userJson user)
    let groupV ← groups.mapM (dumpGroup lib)
    return acceptedJson user offlineMsg vec groupV

/-- The object that `reg` answers with; the id is none where the insertion failed. -/
def regJson : Option UserId → Json
  | some id => (ackJson .regMsgAck 0).set "id" (.int id.toInt)
  | none => ackJson .regMsgAck 1

/-- An answer that a client waits for. -/
inductive Acknowledgement
  | login (response : LoginResponse)
  | reg (id : Option UserId)

def Acknowledgement.json (lib : JsonLibrary) : Acknowledgement → Except JsonException Json
  | login response => loginJson lib response
  | reg id => .ok (regJson id)

/-- What goes to the client. -/
def Acknowledgement.text (lib : JsonLibrary) (ack : Acknowledgement) :
    Except JsonException Bytes := ack.json lib >>= lib.dump

/-! ### Answers that can be written -/

namespace Json

/-- An object that can be written down. -/
structure Proper (js : Json) : Prop where
  object : js = obj js.members
  wellFormed : js.WellFormed

theorem Proper.set {js : Json} (proper : js.Proper) (key : String) {value : Json}
    (valid : value.WellFormed) : (js.set key value).Proper := by
  refine ⟨rfl, ?_⟩
  have members : (obj js.members).WellFormed := proper.object ▸ proper.wellFormed
  exact members.set key valid

theorem proper_set_null (key : String) {value : Json} (valid : value.WellFormed) :
    (null.set key value).Proper := by
  refine ⟨rfl, ?_⟩
  have members : (obj null.members).WellFormed := .empty
  exact members.set key valid

theorem Proper.setList {js : Json} (proper : js.Proper) (key : String) {values : List Bytes}
    (valid : ∀ value ∈ values, ValidUtf8 value) : (js.setList key values).Proper := by
  rw [Json.setList]
  split
  · exact proper
  · apply proper.set
    apply WellFormed.arr
    intro item listed
    obtain ⟨value, member, rfl⟩ := List.mem_map.mp listed
    exact .str (valid value member)

end Json

theorem ackJson_proper (kind : EnMsgType) {errno : Int} (low : 0 ≤ errno) (high : errno < 4) :
    (ackJson kind errno).Proper := by
  have code : (Json.int errno).WellFormed := .int (by omega) (by omega)
  exact (Json.proper_set_null "msgId" (.int32 kind.msgId)).set "errno" code

theorem userJson_proper {user : User} (name : ValidUtf8 user.name.bytes)
    (state : ValidUtf8 user.state.bytes) : (userJson user).Proper :=
  ((Json.proper_set_null "id" (.int32 user.id)).set "name" (.str name)).set "state" (.str state)

theorem acceptedJson_proper {user : User} (name : ValidUtf8 user.name.bytes)
    {offlineMsg vec groupV : List Bytes}
    (stored : ∀ text ∈ offlineMsg, ValidUtf8 text) (friends : ∀ text ∈ vec, ValidUtf8 text)
    (groups : ∀ text ∈ groupV, ValidUtf8 text) :
    (acceptedJson user offlineMsg vec groupV).Proper := by
  have front := ackJson_proper .loginMsgAck (le_refl 0) (by decide)
  have named := (front.set "id" (.int32 user.id)).set "name" (.str name)
  exact ((named.setList "offlinemsg" stored).setList "friends" friends).setList "groups" groups

/-- An acceptance can be sent where its texts are valid. -/
theorem accepted_sent (lib : JsonLibrary) {user : User} (name : ValidUtf8 user.name.bytes)
    {offlineMsg vec groupV : List Bytes} {friends : List User} {groups : List Group}
    (dumpedFriends : (friends.mapM fun user => lib.dump (userJson user)) = .ok vec)
    (dumpedGroups : groups.mapM (dumpGroup lib) = .ok groupV)
    (validStored : ∀ text ∈ offlineMsg, ValidUtf8 text)
    (validFriends : ∀ text ∈ vec, ValidUtf8 text) (validGroups : ∀ text ∈ groupV, ValidUtf8 text) :
    ∃ text, (Acknowledgement.login (.accepted user offlineMsg friends groups)).text lib =
      .ok text := by
  obtain ⟨text, dumped, -⟩ := lib.dump_ok
    (acceptedJson_proper name validStored validFriends validGroups).wellFormed
  refine ⟨text, ?_⟩
  rw [Acknowledgement.text, Acknowledgement.json, loginJson, dumpedFriends, dumpedGroups]
  exact dumped

end ClusterChat
