/-
# The command loop of the client

The menu reads lines into a buffer of fixed size, splits them at the first separator and calls the
handler of the command. A line that does not fit makes the stream fail for good, as one does that a
prompt before the menu has read; a NUL cuts a line short, and what a handler throws is caught by
nobody.
-/

import ClusterChat.Client.ReadTask
import ClusterChat.Data.Search
import ClusterChat.Service.EnvFile

namespace ClusterChat

open JsonGrammar

/-! ### The standard input -/

/-- `cin`: what has not been read, and whether neither its end nor a failure has been met. -/
structure InputStream where
  rest : Bytes
  good : Bool
  deriving DecidableEq

/-- `cin.getline(buffer, size)`: a line without its newline; a longer one is cut off and makes the
stream fail, and nothing is read from a stream that is not good. -/
def InputStream.getline (size : ℕ) (stream : InputStream) : Bytes × InputStream :=
  if stream.good then
    let line := stream.rest.takeWhile (· ≠ EnvFile.newline)
    if line.length < size then
      if line.length < stream.rest.length then
        (line, ⟨stream.rest.drop (line.length + 1), true⟩)
      else (line, ⟨[], false⟩)
    else (stream.rest.take (size - 1), ⟨stream.rest.drop (size - 1), false⟩)
  else ([], stream)

/-! ### Numbers -/

/-- What ends the program when nobody catches it. -/
inductive MenuException
  | json (error : JsonException)
  | invalidArgument
  | outOfRange
  deriving DecidableEq

/-- `stoi`. -/
def stoi (str : Bytes) : Except MenuException Int32 :=
  let (sign, digits) : Int × Bytes :=
    match str.dropWhile EnvFile.isspace with
    | 45 :: rest => (-1, rest)
    | 43 :: rest => (1, rest)
    | rest => (1, rest)
  match digits.takeWhile JsonText.isDigit with
  | [] => .error .invalidArgument
  | run =>
    let value : Int := sign * (JsonText.readDigits 0 run).1
    if Int32.minValue.toInt ≤ value ∧ value ≤ Int32.maxValue.toInt then .ok (.ofInt value)
    else .error .outOfRange

/-! ### Commands -/

def colon : UInt8 := 58

/-- The wide colon, as three bytes. -/
def wideColon : Bytes := [0xEF, 0xBC, 0x9A]

/-- The word in front of the first separator, trimmed, and the text behind it. A wide colon is
looked for only where there is no narrow one. -/
def splitCommand (commandBuf : Bytes) : Bytes × Bytes :=
  match commandBuf.findIdx? (· = colon) with
  | some sepPos => (EnvFile.trimCopy (commandBuf.take sepPos), commandBuf.drop (sepPos + 1))
  | none =>
    match findSub wideColon commandBuf with
    | some sepPos =>
      (EnvFile.trimCopy (commandBuf.take sepPos), commandBuf.drop (sepPos + wideColon.length))
    | none => (EnvFile.trimCopy commandBuf, [])

inductive MenuCommand
  | help
  | chat
  | addfriend
  | creategroup
  | addgroup
  | groupchat
  | logout
  deriving DecidableEq

/-- `commandHandlerMap`. -/
def commandHandlerMap : List (Bytes × MenuCommand) :=
  [(letters "help", .help), (letters "chat", .chat), (letters "addfriend", .addfriend),
    (letters "creategroup", .creategroup), (letters "addgroup", .addgroup),
    (letters "groupchat", .groupchat), (letters "logout", .logout)]

/-- What a handler finds: the user, the time, and whether its request can be sent. -/
structure MenuEnv where
  user : ClientUser
  time : String
  sent : Bool

/-- What a handler does: it lists the commands, refuses its arguments, or makes a request. -/
inductive Reply
  | listing
  | refused (message : Bytes)
  | request (text : Bytes) (sent : Bool)
  deriving DecidableEq

section Handlers

variable (lib : JsonLibrary) (env : MenuEnv)

/-- The end of a handler: the request is dumped and sent. -/
def sendRequest (js : Json) : Except MenuException Reply :=
  match lib.dump js with
  | .ok text => .ok (.request text env.sent)
  | .error error => .error (.json error)

/-- `getCurrentTime`. -/
def MenuEnv.currentTime : Bytes := env.time.toList.flatMap String.utf8EncodeChar

/-- A request of this kind, from the user. -/
def requestJson (kind : EnMsgType) : Json :=
  Json.null
    |>.set "msgId" (.int kind.msgId.toInt)
    |>.set "id" (.int env.user.id.toInt)

def addfriend (str : Bytes) : Except MenuException Reply := do
  let friendId ← stoi str
  sendRequest lib env ((requestJson env .addFriendMsg).set "friendId" (.int friendId.toInt))

/-- The arguments in front of the first colon and behind it. -/
def splitArgs (str : Bytes) : Option (Bytes × Bytes) :=
  (str.findIdx? (· = colon)).map fun idx => (str.take idx, str.drop (idx + 1))

/-- The object of `chat` and `groupchat`. -/
def chatJson (kind : EnMsgType) (recipient : String) (id : Int32) (message : Bytes) : Json :=
  requestJson env kind
    |>.set "name" (.str env.user.name)
    |>.set recipient (.int id.toInt)
    |>.set "msg" (.str message)
    |>.set "time" (.str env.currentTime)

def chat (str : Bytes) : Except MenuException Reply :=
  match splitArgs str with
  | none => .ok (.refused (letters "chat command invalid!"))
  | some (front, message) => do
    let friendId ← stoi front
    sendRequest lib env (chatJson env .oneChatMsg "to" friendId message)

def creategroup (str : Bytes) : Except MenuException Reply :=
  match splitArgs str with
  | none => .ok (.refused (letters "creategroup command invalid!"))
  | some (groupname, groupdesc) =>
    sendRequest lib env (requestJson env .createGroupMsg
      |>.set "groupname" (.str groupname)
      |>.set "groupdesc" (.str groupdesc))

def addgroup (str : Bytes) : Except MenuException Reply := do
  let groupId ← stoi str
  sendRequest lib env ((requestJson env .addGroupMsg).set "groupid" (.int groupId.toInt))

def groupchat (str : Bytes) : Except MenuException Reply :=
  match splitArgs str with
  | none => .ok (.refused (letters "groupchat command invalid!"))
  | some (front, message) => do
    let groupId ← stoi front
    sendRequest lib env (chatJson env .groupChatMsg "groupid" groupId message)

def logout : Except MenuException Reply := sendRequest lib env (requestJson env .logoutMsg)

/-- The handler of a command. -/
def runCommand : MenuCommand → Bytes → Except MenuException Reply
  | .help, _ => .ok .listing
  | .chat, str => chat lib env str
  | .addfriend, str => addfriend lib env str
  | .creategroup, str => creategroup lib env str
  | .addgroup, str => addgroup lib env str
  | .groupchat, str => groupchat lib env str
  | .logout, _ => logout lib env

/-! ### The loop -/

/-- What becomes of a line. -/
inductive MenuEvent
  | skipped
  | invalid
  | handled (command : MenuCommand) (args : Bytes) (reply : Reply)
  deriving DecidableEq

/-- The part of the loop's body behind the separation of a line. -/
def handleCommand (command args : Bytes) : Except MenuException MenuEvent :=
  if command = [] then .ok .skipped
  else
    match commandHandlerMap.lookup command with
    | none => .ok .invalid
    | some found => do
      let reply ← runCommand lib env found args
      return .handled found args reply

/-- The body of the loop for a line that has been read. -/
def handleLine (commandBuf : Bytes) : Except MenuException MenuEvent :=
  handleCommand lib env (splitCommand commandBuf).1 (splitCommand commandBuf).2

/-- A logout that is sent ends the menu. -/
def MenuEvent.leaves : MenuEvent → Bool
  | handled .logout _ (.request _ sent) => sent
  | _ => false

/-- The state of the loop, with what has become of the lines so far. -/
structure Menu where
  input : InputStream
  running : Bool
  events : List MenuEvent

/-- One turn of the loop in `mainMenu`; the line goes through a C string. -/
def menuTurn (menu : Menu) : Except MenuException Menu := do
  let (buffer, input) := menu.input.getline 1024
  let event ← handleLine lib env (cStr buffer)
  return ⟨input, !event.leaves, menu.events ++ [event]⟩

end Handlers

/-- So many turns of `mainMenu`, or as many as it takes to leave it. -/
def mainMenu (lib : JsonLibrary) (env : ℕ → MenuEnv) : ℕ → Menu → Except MenuException Menu
  | 0, menu => .ok menu
  | turns + 1, menu =>
    if menu.running then do
      let menu ← menuTurn lib (env menu.events.length) menu
      mainMenu lib env turns menu
    else .ok menu

/-! ### A line that is read -/

/-- A line that fits into the buffer is read with its newline; a longer one leaves the stream
failed, with its end and all later lines unread. -/
theorem getline_line {line : Bytes} (plain : EnvFile.newline ∉ line) (size : ℕ) (rest : Bytes) :
    InputStream.getline size ⟨line ++ EnvFile.newline :: rest, true⟩ =
      if line.length < size then (line, ⟨rest, true⟩)
      else (line.take (size - 1), ⟨line.drop (size - 1) ++ EnvFile.newline :: rest, false⟩) := by
  have all : ∀ c ∈ line, decide (c ≠ EnvFile.newline) = true := by
    intro c listed
    simpa using fun same : c = EnvFile.newline => plain (same ▸ listed)
  have front : (line ++ EnvFile.newline :: rest).takeWhile (· ≠ EnvFile.newline) = line := by
    rw [List.takeWhile_append_of_pos all, List.takeWhile_cons_of_neg (by simp), List.append_nil]
  have more : line.length < (line ++ EnvFile.newline :: rest).length := by
    rw [List.length_append, List.length_cons]
    omega
  have back : (line ++ EnvFile.newline :: rest).drop (line.length + 1) = rest := by
    rw [← List.drop_drop, List.drop_left]
    rfl
  rw [InputStream.getline, if_pos rfl]
  by_cases short : line.length < size
  · simp only [front, if_pos short, if_pos more, back]
  · simp only [front, if_neg short]
    rw [List.take_append_of_le_length (by omega), List.drop_append_of_le_length (by omega)]

/-! ### The separation of a line -/

/-- A line is split at its first colon; without a colon it is split at its first wide colon, and
without either it is all front. -/
inductive Separated : Bytes → Bytes → Bytes → Prop
  | narrow {front args : Bytes} (first : colon ∉ front) :
      Separated (front ++ colon :: args) front args
  | wide {front args : Bytes} (free : colon ∉ front ++ (wideColon ++ args))
      (first : ∀ before after, front ++ (wideColon ++ args) = before ++ (wideColon ++ after) →
        front.length ≤ before.length) :
      Separated (front ++ (wideColon ++ args)) front args
  | whole {front : Bytes} (free : colon ∉ front) (free' : ¬wideColon <:+: front) :
      Separated front front []

/-- The word of a text: all of it but the blanks at both ends. -/
def HasWord (text word : Bytes) : Prop :=
  Trimmed EnvFile.isspace word ∧ ∃ before after, text = before ++ (word ++ after) ∧
    (∀ c ∈ before, EnvFile.isspace c) ∧ ∀ c ∈ after, EnvFile.isspace c

theorem hasWord_iff {text word : Bytes} : HasWord text word ↔ EnvFile.trimCopy text = word := by
  constructor
  · rintro ⟨trimmed, before, after, rfl, blank, blank'⟩
    exact trimmed.trim_eq blank blank'
  · rintro rfl
    exact ⟨trimmed_trim EnvFile.isspace text, trim_parts EnvFile.isspace text⟩

/-- **The menu separates lines so**, and in no other way. -/
theorem Separated.splitCommand_eq {line front args : Bytes} (split : Separated line front args) :
    splitCommand line = (EnvFile.trimCopy front, args) := by
  have wideSome : wideColon ≠ [] := by decide
  cases split with
  | narrow first =>
    simp only [splitCommand, findIdx?_behind first, List.take_left]
    rw [← List.drop_drop, List.drop_left]
    rfl
  | wide free first =>
    have found : findSub wideColon (front ++ (wideColon ++ args)) = some front.length :=
      (findSub_eq_some_iff wideSome).mpr ⟨⟨front, args, rfl, rfl⟩, first⟩
    simp only [splitCommand, findIdx?_of_notMem free, found, List.take_left]
    rw [← List.drop_drop, List.drop_left, List.drop_left]
  | whole free free' =>
    have missed := (findSub_eq_none_iff wideSome).mpr free'
    simp only [splitCommand, findIdx?_of_notMem free, missed]

/-! ### A line with a NUL -/

section Accepted

variable (lib : JsonLibrary) (env : MenuEnv)

end Accepted

/-! ### Lines that the loop survives -/

/-- The line gives a command and its arguments. -/
def Names (line : Bytes) (command : MenuCommand) (args : Bytes) : Prop :=
  ∃ front word, Separated line front args ∧ HasWord front word ∧
    (word, command) ∈ commandHandlerMap

section Fits

variable {line : Bytes}

/-- A line gives one command at most. -/
theorem Names.lookup {command : MenuCommand} {args : Bytes} (names : Names line command args) :
    commandHandlerMap.lookup (splitCommand line).1 = some command ∧
      (splitCommand line).2 = args := by
  obtain ⟨front, word, split, hasWord, known⟩ := names
  have each : ∀ entry ∈ commandHandlerMap, commandHandlerMap.lookup entry.1 = some entry.2 := by
    decide
  rw [split.splitCommand_eq, hasWord_iff.mp hasWord]
  exact ⟨each _ known, rfl⟩

end Fits

section Named

variable {α β : Type}

open ClientAction

/-- The action keeps what holds of the client, also where it is ended by an exception. -/
def Keeps (holds : ClientState → Prop) (action : ClientAction α) : Prop :=
  ∀ client, holds client → holds (action.on client).2

variable {holds : ClientState → Prop}

theorem Keeps.bind {action : ClientAction α} {cont : α → ClientAction β}
    (first : Keeps holds action) (rest : ∀ value, Keeps holds (cont value)) :
    Keeps holds (action >>= cont) := by
  intro client before
  have middle := first client before
  cases ends : action.on client with
  | mk result after =>
    rw [ends] at middle
    cases result with
    | error error =>
      rw [on_bind_error ends]
      exact middle
    | ok value =>
      rw [on_bind_ok ends]
      exact rest value after middle

/-- The name of the user is valid. -/
def Named (client : ClientState) : Prop := ValidUtf8 client.currentUser.name

variable (lib : JsonLibrary)

end Named

/-- From a stream that has failed nothing is read, and the loop goes on for ever. -/
theorem mainMenu_failed (lib : JsonLibrary) (env : ℕ → MenuEnv) (turns : ℕ) (rest : Bytes)
    (events : List MenuEvent) :
    mainMenu lib env turns ⟨⟨rest, false⟩, true, events⟩ =
      .ok ⟨⟨rest, false⟩, true, events ++ List.replicate turns .skipped⟩ := by
  induction turns generalizing events with
  | zero => rw [List.replicate_zero, List.append_nil]; rfl
  | succ turns ih =>
    have turn : menuTurn lib (env events.length) ⟨⟨rest, false⟩, true, events⟩ =
        .ok ⟨⟨rest, false⟩, true, events ++ [.skipped]⟩ := rfl
    rw [mainMenu, if_pos rfl, turn]
    refine (ih (events ++ [.skipped])).trans ?_
    rw [List.append_assoc, List.singleton_append, List.replicate_succ]

/-- **A password that does not fit** into its buffer of 50 bytes leaves the stream failed, and no
line of the menu is read. -/
theorem mainMenu_unread (lib : JsonLibrary) (env : ℕ → MenuEnv) (turns : ℕ) {pwd : Bytes}
    (plain : EnvFile.newline ∉ pwd) (long : 50 ≤ pwd.length) (rest : Bytes) :
    mainMenu lib env turns
        ⟨(InputStream.getline 50 ⟨pwd ++ EnvFile.newline :: rest, true⟩).2, true, []⟩ =
      .ok ⟨⟨pwd.drop 49 ++ EnvFile.newline :: rest, false⟩, true,
        List.replicate turns .skipped⟩ := by
  rw [getline_line plain, if_neg (Nat.not_lt.mpr long)]
  exact mainMenu_failed lib env turns _ []

end ClusterChat
